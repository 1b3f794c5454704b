import EnvScout.Host
import EnvScout.Proofs.Lookup
import EnvScout.Proofs.Path.Text

/-!
What the line of a command tells. The program ends at the first space, and each argument is either
in quotes, which then end it, or a word without white space, so the line is read back piece by piece
in one way only. A scripted host, whose answers go by such lines, keeps the commands apart as far as
the text of the program does.
-/

namespace EnvScout

section Words

variable {sep : Char} {word other s t : List Char}

/-- The text ends here or goes on with a separator. -/
def BreaksAt (sep : Char) (s : List Char) : Prop :=
  ∀ c ∈ s.head?, c = sep

theorem breaksAt_cons (sep : Char) (s : List Char) : BreaksAt sep (sep :: s) := by
  rintro c ⟨⟩
  rfl

theorem takeWhile_word (hword : sep ∉ word) (hs : BreaksAt sep s) :
    (word ++ s).takeWhile (· != sep) = word := by
  have hall : ∀ c ∈ word, (c != sep) = true := fun c hc => by
    rw [bne_iff_ne]
    rintro rfl
    exact hword hc
  rw [List.takeWhile_append_of_pos hall]
  cases s with
  | nil => rw [List.takeWhile_nil, List.append_nil]
  | cons c s =>
      rw [hs c rfl, List.takeWhile_cons_of_neg (by simp), List.append_nil]

/-- Where it breaks after a word, the word and what follows can be told apart. -/
theorem word_append_inj (hword : sep ∉ word) (hother : sep ∉ other) (hs : BreaksAt sep s)
    (ht : BreaksAt sep t) (h : word ++ s = other ++ t) : word = other ∧ s = t := by
  have hsame : word = other :=
    calc word
        = (word ++ s).takeWhile (· != sep) := (takeWhile_word hword hs).symm
      _ = (other ++ t).takeWhile (· != sep) := by rw [h]
      _ = other := takeWhile_word hother ht
  subst hsame
  exact ⟨rfl, List.append_cancel_left h⟩

end Words

namespace Command

/-- The text of the program, and the arguments. -/
def words (c : Command) : String × List String :=
  (c.program.shown, c.arguments)

/-- The program has no space in its text, and no argument has a quote in it. -/
structure Plain (c : Command) : Prop where
  program : ' ' ∉ c.program.shown.toList
  arguments : ∀ argument ∈ c.arguments, '"' ∉ argument.toList

instance (c : Command) : Decidable c.Plain :=
  decidable_of_iff (' ' ∉ c.program.shown.toList ∧ ∀ argument ∈ c.arguments, '"' ∉ argument.toList)
    ⟨fun h => ⟨h.1, h.2⟩, fun h => ⟨h.program, h.arguments⟩⟩

/-! One argument. -/

theorem writeArgument_cases (argument : String) :
    (writeArgument argument).toList = '"' :: argument.toList ++ ['"'] ∨
      writeArgument argument = argument ∧ argument.toList ≠ [] ∧ ' ' ∉ argument.toList := by
  rw [writeArgument]
  split
  · left
    simp
  · rename_i hbare
    simp only [Bool.or_eq_true, decide_eq_true_eq, List.any_eq_true, not_or, not_exists,
      not_and] at hbare
    obtain ⟨hne, hblank⟩ := hbare
    exact Or.inr ⟨rfl, mt String.toList_eq_nil_iff.mp hne, fun hspace =>
      hblank ' ' hspace (by decide)⟩

variable {a b : String} {s t : List Char}

theorem quoted_ne_bare (hb : '"' ∉ b.toList) (hne : b.toList ≠ []) :
    '"' :: s ≠ b.toList ++ t := by
  obtain ⟨first, rest, hlist⟩ := List.exists_cons_of_ne_nil hne
  intro h
  rw [hlist, List.cons_append] at h
  rw [hlist, ← (List.cons.inj h).1] at hb
  exact hb List.mem_cons_self

/-- An argument is read back from the front of what is written, to where it breaks behind it. -/
theorem writeArgument_append_inj (ha : '"' ∉ a.toList) (hb : '"' ∉ b.toList)
    (hs : BreaksAt ' ' s) (ht : BreaksAt ' ' t)
    (h : (writeArgument a).toList ++ s = (writeArgument b).toList ++ t) : a = b ∧ s = t := by
  rcases writeArgument_cases a with hquoted | ⟨hbare, hne, hspace⟩
  · rcases writeArgument_cases b with hquoted' | ⟨hbare', hne', -⟩
    · rw [hquoted, hquoted'] at h
      simp only [List.cons_append, List.append_assoc, List.nil_append, List.cons.injEq,
        true_and] at h
      obtain ⟨hsame, hrest⟩ := word_append_inj ha hb (breaksAt_cons '"' s) (breaksAt_cons '"' t) h
      exact ⟨String.toList_injective hsame, (List.cons.inj hrest).2⟩
    · rw [hquoted, hbare'] at h
      exact absurd h (quoted_ne_bare hb hne')
  · rcases writeArgument_cases b with hquoted' | ⟨hbare', -, hspace'⟩
    · rw [hbare, hquoted'] at h
      exact absurd h.symm (quoted_ne_bare ha hne)
    · rw [hbare, hbare'] at h
      obtain ⟨hsame, hrest⟩ := word_append_inj hspace hspace' hs ht h
      exact ⟨String.toList_injective hsame, hrest⟩

/-! All arguments. -/

/-- The arguments as they stand behind the program. -/
def writeArguments (arguments : List String) : List Char :=
  arguments.flatMap fun argument => ' ' :: (writeArgument argument).toList

theorem breaksAt_writeArguments (arguments : List String) :
    BreaksAt ' ' (writeArguments arguments) := by
  cases arguments with
  | nil => exact nofun
  | cons argument rest => exact breaksAt_cons ' ' _

theorem writeArguments_injective {as bs : List String} (ha : ∀ a ∈ as, '"' ∉ a.toList)
    (hb : ∀ b ∈ bs, '"' ∉ b.toList) (h : writeArguments as = writeArguments bs) : as = bs := by
  induction as generalizing bs with
  | nil =>
      cases bs with
      | nil => rfl
      | cons b bs => cases h
  | cons a as ih =>
      cases bs with
      | nil => cases h
      | cons b bs =>
          obtain ⟨hfirst, hrest⟩ := List.forall_mem_cons.mp ha
          obtain ⟨hfirst', hrest'⟩ := List.forall_mem_cons.mp hb
          obtain ⟨rfl, hmore⟩ := writeArgument_append_inj hfirst hfirst'
            (breaksAt_writeArguments as) (breaksAt_writeArguments bs) (List.cons.inj h).2
          rw [ih hrest hrest' hmore]

theorem toList_line (c : Command) :
    c.line.toList = c.program.shown.toList ++ writeArguments c.arguments := by
  rw [line]
  generalize c.program.shown = text
  induction c.arguments generalizing text with
  | nil => exact (List.append_nil _).symm
  | cons argument rest ih =>
      rw [List.foldl_cons, ih]
      simp [writeArguments]

variable {c d : Command}

/-- The line of a program and its arguments. -/
def lineOf (words : String × List String) : String :=
  words.2.foldl (fun text argument => text ++ " " ++ writeArgument argument) words.1

theorem line_eq_of_words (h : c.words = d.words) : c.line = d.line :=
  congrArg lineOf h

/-- The words of a plain command are told from its line. -/
theorem Plain.words_eq_of_line (hc : c.Plain) (hd : d.Plain) (h : c.line = d.line) :
    c.words = d.words := by
  have hlist := congrArg String.toList h
  rw [toList_line, toList_line] at hlist
  obtain ⟨htext, hrest⟩ := word_append_inj hc.program hd.program
    (breaksAt_writeArguments c.arguments) (breaksAt_writeArguments d.arguments) hlist
  exact Prod.ext (String.toList_injective htext)
    (writeArguments_injective hc.arguments hd.arguments hrest)

theorem Plain.line_eq_iff (hc : c.Plain) (hd : d.Plain) : c.line = d.line ↔ c.words = d.words :=
  ⟨hc.words_eq_of_line hd, line_eq_of_words⟩

/-- A command whose program is a text is told by its words. -/
theorem eq_of_words (hc : c.program.isText = true) (hd : d.program.isText = true)
    (h : c.words = d.words) : c = d := by
  obtain ⟨hprogram, harguments⟩ := Prod.mk.inj h
  calc c
      = ⟨c.program, c.arguments⟩ := rfl
    _ = ⟨d.program, d.arguments⟩ := by rw [Path.eq_of_shown_eq hc hd hprogram, harguments]
    _ = d := rfl

theorem map_words_eq_of_map_line {cs ds : List Command} (hcs : ∀ c ∈ cs, c.Plain)
    (hds : ∀ d ∈ ds, d.Plain) (h : cs.map line = ds.map line) : cs.map words = ds.map words := by
  induction cs generalizing ds with
  | nil => rw [List.map_eq_nil_iff.mp h.symm]
  | cons c cs ih =>
      cases ds with
      | nil => cases h
      | cons d ds =>
          obtain ⟨hc, hcs⟩ := List.forall_mem_cons.mp hcs
          obtain ⟨hd, hds⟩ := List.forall_mem_cons.mp hds
          obtain ⟨hfirst, hrest⟩ := List.cons.inj h
          rw [List.map_cons, List.map_cons, hc.words_eq_of_line hd hfirst, ih hcs hds hrest]

theorem map_line_eq_of_map_words {cs ds : List Command} (h : cs.map words = ds.map words) :
    cs.map line = ds.map line :=
  calc cs.map line
      = (cs.map words).map lineOf := by rw [List.map_map]; rfl
    _ = (ds.map words).map lineOf := by rw [h]
    _ = ds.map line := by rw [List.map_map]; rfl

theorem eq_of_map_words {cs ds : List Command} (hcs : ∀ c ∈ cs, c.program.isText = true)
    (hds : ∀ d ∈ ds, d.program.isText = true) (h : cs.map words = ds.map words) : cs = ds := by
  induction cs generalizing ds with
  | nil => exact (List.map_eq_nil_iff.mp h.symm).symm
  | cons c cs ih =>
      cases ds with
      | nil => cases h
      | cons d ds =>
          obtain ⟨hc, hcs⟩ := List.forall_mem_cons.mp hcs
          obtain ⟨hd, hds⟩ := List.forall_mem_cons.mp hds
          obtain ⟨hfirst, hrest⟩ := List.cons.inj h
          rw [eq_of_words hc hd hfirst, ih hcs hds hrest]

end Command

namespace Script

/-- The script with an output for a command line, in place of the one it may have had. -/
def withOutput (script : Script) (line : String) (output : Output) : Script :=
  { script with outputs := (line, output) :: script.outputs }

theorem answer_withOutput (script : Script) (line : String) (output : Output) (c : Command) :
    (script.withOutput line output).answer c =
      if c.line = line then some output else script.answer c := by
  rw [answer, withOutput, lookup_cons_eq]
  by_cases h : c.line = line
  · rw [if_pos h, if_pos h]
  · rw [if_neg h, if_neg h]
    rfl

end Script

/-- The line of a command whose program has no space and whose arguments have no quotes in them
tells the text of the program and the arguments. So an output that a script has for one such command
is given for no other, and the lines of the commands that were run say which they were, where their
programs are texts outright. -/
theorem command_told_by_line {c d : Command} (hc : c.Plain) (hd : d.Plain) :
    (c.line = d.line ↔ c.program.shown = d.program.shown ∧ c.arguments = d.arguments) ∧
      (∀ (script : Script) (output : Output) (files : FileSystem) (directory : Option Path),
        ((script.withOutput c.line output).host.run files d directory).output =
          if d.words = c.words then some output
          else (script.host.run files d directory).output) ∧
      (∀ ran others : List Command, (∀ x ∈ ran, x.Plain) → (∀ x ∈ others, x.Plain) →
        (ran.map Command.line = others.map Command.line ↔
          ran.map Command.words = others.map Command.words)) ∧
      ∀ ran others : List Command, (∀ x ∈ ran, x.program.isText = true) →
        (∀ x ∈ others, x.program.isText = true) →
        (ran.map Command.words = others.map Command.words ↔ ran = others) := by
  refine ⟨(hc.line_eq_iff hd).trans Prod.mk_inj, fun script output files directory => ?_,
    fun ran others hran hothers => ⟨Command.map_words_eq_of_map_line hran hothers,
      Command.map_line_eq_of_map_words⟩,
    fun ran others hran hothers => ⟨Command.eq_of_map_words hran hothers, congrArg _⟩⟩
  show (script.withOutput c.line output).answer d =
    if d.words = c.words then some output else script.answer d
  rw [Script.answer_withOutput]
  simp only [hd.line_eq_iff hc]

/-- An empty argument and one with two spaces in it are not taken for others. -/
theorem quoted_arguments_told_apart :
    (⟨⟨"gdb"⟩, ["", "a  b", "-x"]⟩ : Command).Plain ∧
      (⟨⟨"gdb"⟩, ["", "a", "", "b", "-x"]⟩ : Command).Plain ∧
      (⟨⟨"gdb"⟩, ["", "a  b", "-x"]⟩ : Command).line ≠
        (⟨⟨"gdb"⟩, ["", "a", "", "b", "-x"]⟩ : Command).line := by
  have hc : (⟨⟨"gdb"⟩, ["", "a  b", "-x"]⟩ : Command).Plain := by decide +kernel
  have hd : (⟨⟨"gdb"⟩, ["", "a", "", "b", "-x"]⟩ : Command).Plain := by decide +kernel
  refine ⟨hc, hd, fun h => ?_⟩
  obtain ⟨-, harguments⟩ := (command_told_by_line hc hd).1.mp h
  exact absurd harguments (by decide)

end EnvScout
