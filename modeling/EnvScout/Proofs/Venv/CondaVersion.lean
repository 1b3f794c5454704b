import EnvScout.Proofs.Text.Replace
import EnvScout.Proofs.Venv.Accuracy
import EnvScout.Proofs.Venv.Packages

/-!
The versions that conda gives. Each of the five parts of a long version ends up where the short
spelling has it, for numbers of any length: nothing in a number, and nothing that has been put in
its place, is taken for the name of a stage. A short version is left alone, tells pre-releases
apart, and begins with the two numbers by which packages are looked up.
-/

namespace EnvScout

open Search Text

/-- A number as it is written. -/
structure Numeral where
  text : String
  nonempty : text ≠ ""
  digits : ∀ c ∈ text.toList, c.isDigit = true

/-- How far a release has come. -/
inductive Stage where
  | alpha
  | beta
  | candidate
  | final
  deriving DecidableEq

/-- What the long spelling calls a stage. -/
def Stage.word : Stage → String
  | alpha => "alpha"
  | beta => "beta"
  | candidate => "candidate"
  | final => "final"

/-- The letters for a pre-release in the short spelling. -/
def Stage.mark? : Stage → Option String
  | alpha => some "a"
  | beta => some "b"
  | candidate => some "rc"
  | final => none

structure Release where
  major : Numeral
  minor : Numeral
  micro : Numeral
  stage : Stage
  serial : Numeral

namespace Release

/-- The first two numbers. -/
def series (release : Release) : String :=
  release.major.text ++ "." ++ release.minor.text

/-- The first three numbers. -/
def number (release : Release) : String :=
  release.series ++ "." ++ release.micro.text

/-- All five parts, as conda has them. -/
def long (release : Release) : String :=
  release.number ++ "." ++ release.stage.word ++ "." ++ release.serial.text

/-- A final release by its three numbers, a pre-release with its letters and its serial number. -/
def short (release : Release) : String :=
  match release.stage.mark? with
  | some mark => release.number ++ mark ++ release.serial.text
  | none => release.number

end Release

/-! The characters of a version. -/

/-- What numbers and the separators between them are made of. -/
def IsPlain (c : Char) : Prop :=
  c.isDigit = true ∨ c = '.'

instance (c : Char) : Decidable (IsPlain c) :=
  inferInstanceAs (Decidable (_ ∨ _))

theorem Numeral.not_mem {c : Char} (numeral : Numeral) (hc : ¬IsPlain c) :
    c ∉ numeral.text.toList :=
  fun hmem => hc (.inl (numeral.digits c hmem))

theorem Numeral.exists_concat (numeral : Numeral) :
    ∃ front last, numeral.text.toList = front ++ [last] ∧ last.isDigit = true := by
  have hne : numeral.text.toList ≠ [] := mt String.toList_eq_nil_iff.mp numeral.nonempty
  refine ⟨_, _, (List.dropLast_concat_getLast hne).symm, numeral.digits _ (List.getLast_mem hne)⟩

namespace Release

variable (release : Release)

theorem toList_number :
    release.number.toList = release.major.text.toList ++ '.' ::
      (release.minor.text.toList ++ '.' :: release.micro.text.toList) := by
  simp [number, series]

theorem not_mem_number {c : Char} (hc : ¬IsPlain c) : c ∉ release.number.toList := by
  have hdot : c ≠ '.' := fun h => hc (.inr h)
  rw [toList_number]
  simp [hdot, release.major.not_mem hc, release.minor.not_mem hc, release.micro.not_mem hc]

theorem getLast?_number : release.number.toList.getLast? ≠ some '.' := by
  obtain ⟨front, last, hlast, hdigit⟩ := release.micro.exists_concat
  rw [toList_number, hlast, ← List.cons_append, ← List.append_assoc, ← List.cons_append,
    ← List.append_assoc, List.getLast?_concat]
  rintro ⟨⟩
  cases hdigit

/-- A character that no number has can only be in what stands between number and serial. -/
theorem not_mem_between {c : Char} (hc : ¬IsPlain c) {between : List Char} (h : c ∉ between) :
    c ∉ release.number.toList ++ (between ++ release.serial.text.toList) := by
  simp [release.not_mem_number hc, release.serial.not_mem hc, h]

/-- The name of a stage begins nowhere in the number in front of it. -/
theorem clear_number {second : Char} (hsecond : ¬IsPlain second) (more rest : List Char) :
    Clear ('.' :: second :: more) release.number.toList rest :=
  clear_of_second (release.not_mem_number hsecond) release.getLast?_number

theorem replace_between {c : Char} (hc : ¬IsPlain c) {pattern between : List Char}
    (hmem : c ∈ pattern) (h : c ∉ between) (new : List Char) :
    replace pattern new (release.number.toList ++ (between ++ release.serial.text.toList)) =
      release.number.toList ++ (between ++ release.serial.text.toList) :=
  replace_of_not_mem hmem (release.not_mem_between hc h)

/-- The name of its stage is the one thing that is replaced in a long version. -/
theorem replace_stage {second : Char} (hsecond : ¬IsPlain second) (more mark : List Char) :
    replace ('.' :: second :: more) mark (release.number.toList ++
      ('.' :: second :: more ++ release.serial.text.toList)) =
        release.number.toList ++ (mark ++ release.serial.text.toList) := by
  have hmem : second ∈ '.' :: second :: more := List.mem_cons_of_mem _ List.mem_cons_self
  rw [replace_append_of_clear (release.clear_number hsecond more _), replace_occurrence,
    replace_of_not_mem hmem (release.serial.not_mem hsecond)]

theorem toList_short_of_mark {mark : String} (h : release.stage.mark? = some mark) :
    release.short.toList =
      release.number.toList ++ (mark.toList ++ release.serial.text.toList) := by
  rw [short, h]
  simp

theorem toList_long (between : String) (h : "." ++ release.stage.word ++ "." = between) :
    release.long.toList =
      release.number.toList ++ (between.toList ++ release.serial.text.toList) := by
  rw [← h]
  simp [long]

end Release

namespace CondaInfo

/-- A version with the names of pre-release stages replaced. -/
def marked (version : List Char) : List Char :=
  replace ".candidate.".toList "rc".toList
    (replace ".beta.".toList "b".toList (replace ".alpha.".toList "a".toList version))

theorem normalizeVersion_of_marked {version : String} {short : List Char}
    (h : marked version.toList = short) (hfinal : 'f' ∉ short) :
    normalizeVersion version = String.ofList short := by
  have hcut : cutAt ".final.".toList (marked version.toList) = none := by
    rw [h]
    exact cutAt_of_not_mem (c := 'f') (by simp) hfinal
  rw [← h]
  unfold marked at hcut ⊢
  rw [normalizeVersion, hcut]

/-- A text without some letter of each name that a stage can have is short already. -/
theorem normalizeVersion_of_not_mem {version : String} (halpha : 'l' ∉ version.toList)
    (hbeta : 't' ∉ version.toList) (hcandidate : 'd' ∉ version.toList)
    (hfinal : 'f' ∉ version.toList) : normalizeVersion version = version := by
  have hmarked : marked version.toList = version.toList := by
    rw [marked, replace_of_not_mem (c := 'l') (by simp) halpha,
      replace_of_not_mem (c := 't') (by simp) hbeta,
      replace_of_not_mem (c := 'd') (by simp) hcandidate]
  rw [normalizeVersion_of_marked hmarked hfinal, String.ofList_toList]

variable (release : Release)

theorem normalizeVersion_short : normalizeVersion release.short = release.short := by
  have hnone : ∀ c, ¬IsPlain c → c ≠ 'a' → c ≠ 'b' → c ≠ 'r' → c ≠ 'c' →
      c ∉ release.short.toList := by
    intro c hc ha hb hr hcandidate
    cases hstage : release.stage with
    | final =>
        rw [Release.short, hstage]
        exact release.not_mem_number hc
    | alpha =>
        rw [release.toList_short_of_mark (by rw [hstage]; rfl)]
        exact release.not_mem_between hc (by simp [ha])
    | beta =>
        rw [release.toList_short_of_mark (by rw [hstage]; rfl)]
        exact release.not_mem_between hc (by simp [hb])
    | candidate =>
        rw [release.toList_short_of_mark (by rw [hstage]; rfl)]
        exact release.not_mem_between hc (by simp [hr, hcandidate])
  exact normalizeVersion_of_not_mem (hnone 'l' (by decide) nofun nofun nofun nofun)
    (hnone 't' (by decide) nofun nofun nofun nofun) (hnone 'd' (by decide) nofun nofun nofun nofun)
    (hnone 'f' (by decide) nofun nofun nofun nofun)

/-- What becomes of a pre-release, once its stage has been replaced by its letters. -/
theorem normalizeVersion_of_mark (mark : String) (hstage : release.stage.mark? = some mark)
    (hfinal : 'f' ∉ mark.toList)
    (h : marked release.long.toList =
      release.number.toList ++ (mark.toList ++ release.serial.text.toList)) :
    normalizeVersion release.long = release.short := by
  rw [normalizeVersion_of_marked h (release.not_mem_between (by decide) hfinal),
    ← release.toList_short_of_mark hstage, String.ofList_toList]

theorem normalizeVersion_long : normalizeVersion release.long = release.short := by
  cases hstage : release.stage with
  | alpha =>
      refine normalizeVersion_of_mark release "a" (by rw [hstage]; rfl) (by simp) ?_
      calc marked release.long.toList
          = marked (release.number.toList ++ (".alpha.".toList ++ release.serial.text.toList)) := by
            rw [release.toList_long ".alpha." (by rw [hstage]; rfl)]
        _ = replace ".candidate.".toList "rc".toList (replace ".beta.".toList "b".toList
              (release.number.toList ++ ("a".toList ++ release.serial.text.toList))) := by
            rw [marked, show ".alpha.".toList = '.' :: 'a' :: "lpha.".toList from rfl,
              release.replace_stage (by decide)]
        _ = release.number.toList ++ ("a".toList ++ release.serial.text.toList) := by
            rw [release.replace_between (c := 'b') (by decide) (by simp) (by simp),
              release.replace_between (c := 'c') (by decide) (by simp) (by simp)]
  | beta =>
      refine normalizeVersion_of_mark release "b" (by rw [hstage]; rfl) (by simp) ?_
      calc marked release.long.toList
          = marked (release.number.toList ++ (".beta.".toList ++ release.serial.text.toList)) := by
            rw [release.toList_long ".beta." (by rw [hstage]; rfl)]
        _ = replace ".candidate.".toList "rc".toList
              (release.number.toList ++ ("b".toList ++ release.serial.text.toList)) := by
            rw [marked, release.replace_between (c := 'l') (by decide) (by simp) (by simp),
              show ".beta.".toList = '.' :: 'b' :: "eta.".toList from rfl,
              release.replace_stage (by decide)]
        _ = release.number.toList ++ ("b".toList ++ release.serial.text.toList) := by
            rw [release.replace_between (c := 'c') (by decide) (by simp) (by simp)]
  | candidate =>
      refine normalizeVersion_of_mark release "rc" (by rw [hstage]; rfl) (by simp) ?_
      calc marked release.long.toList
          = marked (release.number.toList ++
              (".candidate.".toList ++ release.serial.text.toList)) := by
            rw [release.toList_long ".candidate." (by rw [hstage]; rfl)]
        _ = release.number.toList ++ ("rc".toList ++ release.serial.text.toList) := by
            rw [marked, release.replace_between (c := 'l') (by decide) (by simp) (by simp),
              release.replace_between (c := 'b') (by decide) (by simp) (by simp),
              show ".candidate.".toList = '.' :: 'c' :: "andidate.".toList from rfl,
              release.replace_stage (by decide)]
  | final =>
      have hmarked : marked release.long.toList =
          release.number.toList ++ (".final.".toList ++ release.serial.text.toList) := by
        rw [release.toList_long ".final." (by rw [hstage]; rfl), marked,
          release.replace_between (c := 'p') (by decide) (by simp) (by simp),
          release.replace_between (c := 'b') (by decide) (by simp) (by simp),
          release.replace_between (c := 'c') (by decide) (by simp) (by simp)]
      have hcut : cutAt ".final.".toList (marked release.long.toList) =
          some (release.number.toList, release.serial.text.toList) := by
        rw [hmarked, show ".final.".toList = '.' :: 'f' :: "inal.".toList from rfl,
          cutAt_append_of_clear (release.clear_number (by decide) _ _), cutAt_occurrence]
        simp
      unfold marked at hcut
      rw [normalizeVersion, hcut, Release.short, hstage]
      exact String.ofList_toList

end CondaInfo

/-! What can be read off a short version. -/

theorem digits_append_inj {digits digits' rest rest' : List Char}
    (hdigits : ∀ c ∈ digits, c.isDigit = true) (hdigits' : ∀ c ∈ digits', c.isDigit = true)
    (hrest : ∀ c ∈ rest.head?, c.isDigit = false) (hrest' : ∀ c ∈ rest'.head?, c.isDigit = false)
    (h : digits ++ rest = digits' ++ rest') : digits = digits' ∧ rest = rest' := by
  have hfront : digits = digits' := by
    rw [← takeWhile_digits hdigits hrest, h, takeWhile_digits hdigits' hrest']
  rw [hfront, List.append_cancel_left_eq] at h
  exact ⟨hfront, h⟩

theorem Numeral.ext {a b : Numeral} (h : a.text.toList = b.text.toList) : a = b := by
  cases a
  cases b
  congr
  exact String.toList_inj.mp h

theorem Stage.exists_mark {stage : Stage} (h : stage ≠ .final) :
    ∃ mark, stage.mark? = some mark := by
  cases stage with
  | final => exact absurd rfl h
  | _ => exact ⟨_, rfl⟩

theorem Stage.not_isDigit_of_mark {stage : Stage} {mark : String} (h : stage.mark? = some mark)
    (rest : List Char) : ∀ c ∈ (mark.toList ++ rest).head?, c.isDigit = false := by
  cases stage <;> cases h <;> simp

/-- Letters tell which stage they are for, whatever is written behind them. -/
theorem Stage.eq_of_mark {stage other : Stage} {mark mark' : String} {rest rest' : List Char}
    (h : stage.mark? = some mark) (h' : other.mark? = some mark')
    (heq : mark.toList ++ rest = mark'.toList ++ rest') : stage = other ∧ rest = rest' := by
  cases stage <;> cases other <;> cases h <;> cases h' <;> simp at heq <;> simp [heq]

namespace Release

/-- Pre-releases with the same short version are the same. -/
theorem eq_of_short_eq {release other : Release} (hrelease : release.stage ≠ .final)
    (hother : other.stage ≠ .final) (h : release.short = other.short) : release = other := by
  have hdot : ∀ rest : List Char, ∀ c ∈ ('.' :: rest).head?, c.isDigit = false := by
    rintro rest c ⟨⟩
    decide
  obtain ⟨mark, hmark⟩ := Stage.exists_mark hrelease
  obtain ⟨mark', hmark'⟩ := Stage.exists_mark hother
  have heq := congrArg String.toList h
  rw [toList_short_of_mark release hmark, toList_short_of_mark other hmark', toList_number,
    toList_number] at heq
  simp only [List.append_assoc, List.cons_append] at heq
  obtain ⟨hmajor, heq⟩ := digits_append_inj release.major.digits other.major.digits (hdot _)
    (hdot _) heq
  obtain ⟨hminor, heq⟩ := digits_append_inj release.minor.digits other.minor.digits (hdot _)
    (hdot _) (List.cons.inj heq).2
  obtain ⟨hmicro, heq⟩ := digits_append_inj release.micro.digits other.micro.digits
    (Stage.not_isDigit_of_mark hmark _) (Stage.not_isDigit_of_mark hmark' _) (List.cons.inj heq).2
  obtain ⟨hstage, hserial⟩ := Stage.eq_of_mark hmark hmark' heq
  cases release
  cases other
  rw [Release.mk.injEq]
  exact ⟨Numeral.ext hmajor, Numeral.ext hminor, Numeral.ext hmicro, hstage, Numeral.ext hserial⟩

variable (release : Release)

theorem exists_rest_short :
    ∃ rest, release.short.toList =
      release.major.text.toList ++ '.' :: (release.minor.text.toList ++ '.' :: rest) := by
  cases hmark : release.stage.mark? with
  | none =>
      rw [short, hmark]
      exact ⟨_, release.toList_number⟩
  | some mark =>
      refine ⟨release.micro.text.toList ++ (mark.toList ++ release.serial.text.toList), ?_⟩
      rw [toList_short_of_mark release hmark, toList_number]
      simp only [List.append_assoc, List.cons_append]

/-- A short version begins with the two numbers of its series. -/
theorem versioned_short :
    Versioned release.short release.major.text.toList release.minor.text.toList := by
  obtain ⟨rest, hrest⟩ := release.exists_rest_short
  refine ⟨⟨mt String.toList_eq_nil_iff.mp release.major.nonempty, release.major.digits⟩,
    ⟨mt String.toList_eq_nil_iff.mp release.minor.nonempty, release.minor.digits⟩, _, hrest, ?_⟩
  rintro c ⟨⟩
  decide

theorem ofList_series :
    String.ofList (release.major.text.toList ++ '.' :: release.minor.text.toList) =
      release.series := by
  rw [← String.toList_inj]
  simp [series]

theorem majorMinor?_short : majorMinor? release.short = some release.series := by
  rw [release.versioned_short.majorMinor?_eq, ofList_series]

end Release

namespace Venv

/-- Where an environment has the packages of its own series, these are found. -/
theorem value_sitePackages_of_version {site : Site} {venv : Venv} {files : FileSystem}
    {release : Release} (hversion : venv.pythonVersion = release.short)
    (h : files.isDirectory site.workingDirectory
      (venv.packagesUnder ("python" ++ release.series)) = true) :
    (venv.sitePackages site).value files =
      some (venv.packagesUnder ("python" ++ release.series)) := by
  have hversioned : Versioned venv.pythonVersion release.major.text.toList
      release.minor.text.toList := by
    rw [hversion]
    exact release.versioned_short
  have hdir : venv.packagesUnder ("python" ++ release.series) =
      venv.packagesFor release.major.text.toList release.minor.text.toList := by
    rw [packagesFor, release.ofList_series]
  rw [value_sitePackages]
  exact sitePackages?_of_own (ownPackages?_eq_some_iff.mpr ⟨_, _, hversioned, hdir, h⟩)

theorem version_of_info {site : Site} {files : FileSystem} {p : Path} {venv : Venv}
    {info : CondaInfo} (hvenv : (ofDirectory site .conda p).value files = some venv)
    (hinfo : (CondaInfo.query site.host).value files = some info) :
    venv.pythonVersion = info.normalizedVersion := by
  obtain ⟨dir, -, -, rfl⟩ := ofDirectory_eq_some_iff.mp hvenv
  rw [CondaInfo.value_query] at hinfo
  rw [version_describe, versionIn, hinfo]

end Venv

namespace CondaInfo

/-- A long version comes to the short spelling of its release, and a short one to itself.
Pre-releases that differ have different short versions, and every short version begins with the two
numbers of its series, so the packages of that series are preferred in an environment for which
conda gives the long version. -/
theorem normalizeVersion_spells_releases :
    (∀ release : Release, normalizeVersion release.long = release.short ∧
      normalizeVersion (normalizeVersion release.long) = normalizeVersion release.long ∧
      majorMinor? (normalizeVersion release.long) = some release.series) ∧
    (∀ release other : Release, release.stage ≠ .final → other.stage ≠ .final →
      normalizeVersion release.long = normalizeVersion other.long → release = other) ∧
    ∀ (site : Site) (files later : FileSystem) (p : Path) (venv : Venv) (info : CondaInfo)
      (release : Release), (Venv.ofDirectory site .conda p).value files = some venv →
        (query site.host).value files = some info → info.pythonVersion = some release.long →
          later.isDirectory site.workingDirectory
            (venv.packagesUnder ("python" ++ release.series)) = true →
              (venv.sitePackages site).value later =
                some (venv.packagesUnder ("python" ++ release.series)) := by
  refine ⟨fun release => ⟨normalizeVersion_long release, ?_, ?_⟩,
    fun release other hrelease hother h => ?_,
    fun site files later p venv info release hvenv hinfo hlong hpackages => ?_⟩
  · rw [normalizeVersion_long, normalizeVersion_short]
  · rw [normalizeVersion_long]
    exact release.majorMinor?_short
  · rw [normalizeVersion_long, normalizeVersion_long] at h
    exact Release.eq_of_short_eq hrelease hother h
  · have hversion : venv.pythonVersion = release.short := by
      rw [Venv.version_of_info hvenv hinfo, normalizedVersion, hlong]
      exact normalizeVersion_long release
    exact Venv.value_sitePackages_of_version hversion hpackages

/-- The first candidate for a release. -/
def firstCandidate : Release where
  major := ⟨"3", by decide, by simp⟩
  minor := ⟨"13", by decide, by simp⟩
  micro := ⟨"0", by decide, by simp⟩
  stage := .candidate
  serial := ⟨"1", by decide, by simp⟩

/-- An environment of conda's with packages for two series, of which one is named first. -/
def condaOfTwo : FileSystem :=
  ⟨.directory [("env", .directory [
    ("bin", .directory [("python", .file .empty true)]),
    ("conda-meta", .empty),
    ("lib", .directory [
      ("python3.1", .directory [("site-packages", .empty)]),
      ("python3.13", .directory [("site-packages", .empty)])])])], []⟩

/-- A site where conda gives that version. -/
def candidateSite : Site :=
  { Venv.quietSite with
    host := Script.host ⟨[], [], [("conda info --json",
      ⟨"\x7b\"python_version\": \"3.13.0.candidate.1\"\x7d", "", 0⟩)], []⟩ }

/-- The report of conda with nothing in it but a version. -/
theorem parse?_of_version {text version : String}
    (h : Json.Token.ofText text = [.openBrace, .string (some "python_version"), .colon,
      .string (some version), .closeBrace]) :
    parse? text = some ⟨none, none, none, some version, []⟩ := by
  have hfield : ∃ field, (fields.find? fun field => field.answersTo "python_version") = some field ∧
      field.isSet {} = false ∧ field.read {} [.string (some version), .closeBrace] =
        .ok ({ pythonVersion := some (some version) }, [.closeBrace]) := ⟨_, rfl, rfl, rfl⟩
  obtain ⟨field, hfound, hfree, hread⟩ := hfield
  have hmembers : Json.Decoder.members fields 5 false {}
      [.string (some "python_version"), .colon, .string (some version), .closeBrace] =
        .ok ({ pythonVersion := some (some version) }, [.closeBrace]) := by
    rw [Json.Decoder.members, Json.Decoder.members.member, hfound]
    dsimp only
    rw [hfree, hread]
    dsimp only
    rw [Json.Decoder.members]
    rfl
  have hrecord : Json.Decoder.record "CondaInfo" fields {}
      (.openBrace :: [.string (some "python_version"), .colon, .string (some version),
        .closeBrace]) = .ok ({ pythonVersion := some (some version) }, []) := by
    rw [Json.Decoder.record]
    simp only [List.length_cons, List.length_nil, Nat.zero_add, hmembers]
    rfl
  rw [parse?, decode, Json.Decoder.decode, h, hrecord]
  rfl

theorem query_candidateSite :
    (query candidateSite.host).value condaOfTwo =
      some ⟨none, none, none, some firstCandidate.long, []⟩ := by
  rw [value_query]
  exact parse?_of_version (by decide +kernel)

theorem packages_of_first_candidate :
    normalizeVersion "3.13.0.candidate.1" = "3.13.0rc1" ∧
    ∃ venv, (Venv.ofDirectory candidateSite .conda ⟨"/env"⟩).value condaOfTwo = some venv ∧
      (query candidateSite.host).value condaOfTwo =
        some ⟨none, none, none, some firstCandidate.long, []⟩ ∧
      (venv.sitePackages candidateSite).value condaOfTwo =
        some ⟨"/env/lib/python3.13/site-packages"⟩ := by
  have hfound : ((Venv.ofDirectory candidateSite .conda ⟨"/env"⟩).value condaOfTwo).map
      Venv.directory = some ⟨"/env"⟩ := by decide +kernel
  have hinfo : (query candidateSite.host).value condaOfTwo =
      some ⟨none, none, none, some firstCandidate.long, []⟩ := query_candidateSite
  obtain ⟨venv, hvenv, hdirectory⟩ := Option.map_eq_some_iff.mp hfound
  have hpackages : venv.packagesUnder ("python" ++ firstCandidate.series) =
      ⟨"/env/lib/python3.13/site-packages"⟩ := by
    rw [Venv.packagesUnder, Venv.libDirectory, hdirectory]
    decide +kernel
  obtain ⟨hspelled, -, hpreferred⟩ := normalizeVersion_spells_releases
  have hpreferred := hpreferred candidateSite condaOfTwo condaOfTwo ⟨"/env"⟩ venv _ firstCandidate
    hvenv hinfo rfl
  rw [hpackages] at hpreferred
  exact ⟨(hspelled firstCandidate).1, venv, hvenv, hinfo, hpreferred (by decide +kernel)⟩

end CondaInfo

end EnvScout
