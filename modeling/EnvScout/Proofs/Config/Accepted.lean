import EnvScout.Proofs.Config.Described

/-!
The language of configurations. What counts in an object is what its fields are given: the order of
the members, which of two names is used and what else is in the object make no difference, neither
in the configuration nor in the setting of the application within it.
-/

namespace EnvScout.Config

open Json Json.SyntaxTree Json.Decoder

variable {text : String} {members : List Member} {config : Config}

/-- The names of the fields of a configuration, those of one field together. -/
def fieldNames : List (List String) :=
  fields.map fun field => field.name :: field.aliases

def applicationFieldNames : List (List String) :=
  applicationFields.map fun field => field.name :: field.aliases

theorem apart_fieldNames : Apart fieldNames := by
  unfold Apart
  decide

theorem apart_applicationFieldNames : Apart applicationFieldNames := by
  unfold Apart
  decide

/-- The members of two objects make the same configuration: they are rearranged, or the members in
the setting of the application are. -/
inductive SaySame : List Member → List Member → Prop
  | rearranged {members others : List Member} (h : Rearranged fieldNames members others) :
      SaySame members others
  | within {inner others : List Member} (h : Rearranged applicationFieldNames inner others)
      (rest : List Member) :
      SaySame ((some "dev_environment", .object inner) :: rest)
        ((some "dev_environment", .object others) :: rest)
  | symm {members others : List Member} (h : SaySame members others) : SaySame others members
  | trans {members others more : List Member} (h : SaySame members others)
      (hmore : SaySame others more) : SaySame members more

theorem Describes.of_rearranged {others : List Member} (h : Rearranged fieldNames members others)
    (hdescribes : Describes members config) : Describes others config := by
  have hnil : ∀ {names}, names ∈ fieldNames → given names members = [] →
      given names others = [] := h.given_of_nil apart_fieldNames
  have hone : ∀ {names tree}, names ∈ fieldNames → given names members = [tree] →
      given names others = [tree] := fun hnames => h.given_of_singleton apart_fieldNames hnames
  refine ⟨h.named_iff.mp hdescribes.named, ?_, ?_, ?_⟩
  · exact hdescribes.finderNames.imp (And.imp_left (hnil (by decide)))
      (And.imp_left (hone (by decide)))
  · exact hdescribes.explicitPath.imp
      (And.imp_left (Or.imp (hnil (by decide)) (hone (by decide))))
      fun ⟨path, hgiven, hpath⟩ => ⟨path, hone (by decide) hgiven, hpath⟩
  · exact hdescribes.application.imp
      (And.imp_left (Or.imp (hnil (by decide)) (hone (by decide))))
      fun ⟨tree, setting, hgiven, hrest⟩ => ⟨tree, setting, hone (by decide) hgiven, hrest⟩

theorem Writes.of_rearranged {inner others : List Member} {setting : ApplicationSetting}
    (h : Rearranged applicationFieldNames inner others)
    (hwrites : Writes (.object inner) setting) : Writes (.object others) setting := by
  rcases hwrites with ⟨_, heq, hnamed, hname, hbinary⟩ | heq
  · cases heq
    exact .inl ⟨others, rfl, h.named_iff.mp hnamed,
      h.given_of_singleton apart_applicationFieldNames (by decide) hname,
      h.given_of_singleton apart_applicationFieldNames (by decide) hbinary⟩
  · cases heq

theorem Describes.of_within {inner others rest : List Member}
    (h : Rearranged applicationFieldNames inner others)
    (hdescribes : Describes ((some "dev_environment", .object inner) :: rest) config) :
    Describes ((some "dev_environment", .object others) :: rest) config := by
  obtain ⟨hnamed, hfinders, hexplicit, happlication⟩ := hdescribes
  rw [given_cons_of_not_mem (by decide)] at hfinders hexplicit
  rw [given_cons_of_mem (by decide)] at happlication
  refine ⟨(named_some ..).mpr ((named_some ..).mp hnamed), ?_, ?_, ?_⟩
  · rw [given_cons_of_not_mem (by decide)]
    exact hfinders
  · rw [given_cons_of_not_mem (by decide)]
    exact hexplicit
  · rw [given_cons_of_mem (by decide)]
    rcases happlication with ⟨hnil | hnull, -⟩ | ⟨tree, setting, hgiven, hset, hwrites, hvalid⟩
    · cases hnil
    · cases hnull
    · obtain ⟨rfl, hrest⟩ := List.cons_eq_cons.mp hgiven
      rw [hrest]
      exact .inr ⟨_, setting, rfl, hset, hwrites.of_rearranged h, hvalid⟩

theorem SaySame.describes_iff {others : List Member} (h : SaySame members others) :
    Describes members config ↔ Describes others config := by
  induction h with
  | rearranged h => exact ⟨.of_rearranged h, .of_rearranged h.symm⟩
  | within h rest => exact ⟨.of_within h, .of_within h.symm⟩
  | symm _ ih => exact ih.symm
  | trans _ _ ih ihmore => exact ih.trans ihmore

/-- A text that is an object is read exactly if its members describe a configuration, as the one
they describe. Objects that say the same are read as the same, and whatever is read is valid:
applying it never fails for the name of its application. -/
theorem ofText_reads_descriptions (text : String) (members : List Member)
    (htext : Token.ofText text = (SyntaxTree.object members).tokens) :
    (∀ config, ofText text = .ok config ↔ Describes members config) ∧
    (∀ other others, Token.ofText other = (SyntaxTree.object others).tokens →
      SaySame members others → ∀ config, ofText text = .ok config ↔ ofText other = .ok config) ∧
    ∀ config, ofText text = .ok config → config.validate = .ok () ∧
      ∀ site settings, (config.applyApplication site settings).Gives Application.KnowsName := by
  refine ⟨fun config => ofText_eq_ok_iff htext, fun other others hother hsame config => ?_,
    fun config hconfig => ?_⟩
  · rw [ofText_eq_ok_iff htext, ofText_eq_ok_iff hother, hsame.describes_iff]
  · obtain ⟨_, -, -, hfault⟩ := (ofText_eq_ok_iff_gather htext).mp hconfig
    exact ⟨validate_eq_ok_iff.mpr hfault, knowsName_applyApplication hfault⟩

section Gdb

def gdbText : String :=
  "\x7b\"pythonPath\": null, \"dev_environment\": " ++
    "\x7b\"binary\": \" /opt/gdb \", \"version\": [15], \"name\": \"gdb\"\x7d\x7d"

def gdbMembers : List Member :=
  [(some "pythonPath", .null),
    (some "dev_environment", .object [(some "binary", .string (some " /opt/gdb ")),
      (some "version", .array [.number "15"]), (some "name", .string (some "gdb"))])]

/-- The same with the other name of the first field, rearranged and without the version. -/
def gdbTextRearranged : String :=
  "\x7b\"dev_environment\":\x7b\"name\":\"gdb\",\"binary\":\" /opt/gdb \"\x7d," ++
    "\"explicit_python_path\":null\x7d"

def gdbMembersRearranged : List Member :=
  [(some "dev_environment", .object [(some "name", .string (some "gdb")),
      (some "binary", .string (some " /opt/gdb "))]),
    (some "explicit_python_path", .null)]

def gdbConfig : Config :=
  ⟨Finder.names, none, some ⟨"gdb", " /opt/gdb "⟩⟩

theorem saySame_gdbMembers : SaySame gdbMembers gdbMembersRearranged := by
  refine .trans (.rearranged (.renamed
    (by decide : ["explicit_python_path", "pythonPath"] ∈ fieldNames)
    (by decide) (by decide : "explicit_python_path" ∈ _) _ _)) ?_
  refine .trans (.rearranged (.reordered (.swap _ _ _))) (.within ?_ _)
  exact .trans (.reordered (List.perm_append_singleton ..).symm) (.symm (.added (by decide) _ _))

theorem gdb_setting_read :
    Token.ofText gdbText = (SyntaxTree.object gdbMembers).tokens ∧
    Token.ofText gdbTextRearranged = (SyntaxTree.object gdbMembersRearranged).tokens ∧
    ofText gdbText = .ok gdbConfig ∧ ofText gdbTextRearranged = .ok gdbConfig ∧
    gdbConfig.validate = .ok () := by
  have htext : Token.ofText gdbText = (SyntaxTree.object gdbMembers).tokens := by decide +kernel
  have hother :
      Token.ofText gdbTextRearranged = (SyntaxTree.object gdbMembersRearranged).tokens := by
    decide +kernel
  obtain ⟨hdescribes, hsame, hvalid⟩ := ofText_reads_descriptions gdbText gdbMembers htext
  have hread : ofText gdbText = .ok gdbConfig := by
    refine (hdescribes gdbConfig).mpr ⟨by simp [gdbMembers], .inl ⟨rfl, rfl⟩, .inl ⟨.inr rfl, rfl⟩,
      .inr ⟨_, ⟨"gdb", " /opt/gdb "⟩, rfl, rfl, .inl ⟨_, rfl, by simp, rfl, rfl⟩, .inr rfl, ?_⟩⟩
    decide +kernel
  exact ⟨htext, hother, hread,
    (hsame _ _ hother saySame_gdbMembers gdbConfig).mp hread, (hvalid gdbConfig hread).1⟩

end Gdb

end EnvScout.Config
