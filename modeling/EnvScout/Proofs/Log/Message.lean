import EnvScout.Log.Line

/-!
The message of an event, wherever among the fields its sentence was recorded. A sentence that says
something goes in front of the fields recorded before it, so its place does not matter. An empty one
is set off from these fields by a space all the same, and only where nothing was recorded before it
is that space left out.
-/

namespace EnvScout.Log

/-- A field that is not the sentence, by name and value. -/
def Field.described (field : Field) : String :=
  field.name ++ "=" ++ field.value.written

/-- Fields as they stand behind a text that is there already. -/
def behind : List Field → String
  | [] => ""
  | field :: rest => " " ++ field.described ++ behind rest

theorem behind_append (front rest : List Field) :
    behind (front ++ rest) = behind front ++ behind rest := by
  induction front with
  | nil => exact (String.empty_append).symm
  | cons field front ih =>
      rw [List.cons_append, behind, behind, ih]
      simp only [String.append_assoc]

theorem Field.described_ne (field : Field) : field.described ≠ "" := by
  intro hempty
  have hlist := congrArg String.toList hempty
  simp [described] at hlist

/-- The text and then the fields, with a space between any two. -/
theorem intercalate_described (text : String) (fields : List Field) :
    " ".intercalate (text :: fields.map Field.described) = text ++ behind fields := by
  induction fields generalizing text with
  | nil => exact String.intercalate_singleton.trans String.append_empty.symm
  | cons field rest ih =>
      rw [List.map_cons, String.intercalate_cons_cons, ih, behind, String.append_assoc,
        String.append_assoc]

variable {field : Field} {fields : List Field} {text : String}

theorem pushField_empty (h : field.name ≠ "message") : pushField "" field = field.described := by
  rw [pushField, if_neg h, if_pos rfl, Field.described]

theorem pushField_of_ne (h : field.name ≠ "message") (htext : text ≠ "") :
    pushField text field = text ++ " " ++ field.described := by
  rw [pushField, if_neg h, if_neg htext, Field.described]
  simp only [String.append_assoc]

theorem foldl_pushField_of_ne (h : ∀ field ∈ fields, field.name ≠ "message") (htext : text ≠ "") :
    fields.foldl pushField text = text ++ behind fields := by
  induction fields generalizing text with
  | nil => exact String.append_empty.symm
  | cons field rest ih =>
      obtain ⟨hfield, hrest⟩ := List.forall_mem_cons.mp h
      have hmore : text ++ " " ++ field.described ≠ "" := by
        intro hempty
        rw [String.append_eq_empty_iff] at hempty
        exact field.described_ne hempty.2
      rw [List.foldl_cons, pushField_of_ne hfield htext, ih hrest hmore, behind]
      simp only [String.append_assoc]

/-- With nothing in front, fields stand as they do behind a text, but for the first space. -/
theorem space_foldl_pushField (h : ∀ field ∈ fields, field.name ≠ "message") (hne : fields ≠ []) :
    " " ++ fields.foldl pushField "" = behind fields := by
  cases fields with
  | nil => exact absurd rfl hne
  | cons field rest =>
      obtain ⟨hfield, hrest⟩ := List.forall_mem_cons.mp h
      rw [List.foldl_cons, pushField_empty hfield, foldl_pushField_of_ne hrest field.described_ne,
        behind, String.append_assoc]

theorem foldl_pushField_ne (h : ∀ field ∈ fields, field.name ≠ "message") (hne : fields ≠ []) :
    fields.foldl pushField "" ≠ "" := by
  obtain ⟨field, rest, rfl⟩ := List.exists_cons_of_ne_nil hne
  obtain ⟨hfield, hrest⟩ := List.forall_mem_cons.mp h
  rw [List.foldl_cons, pushField_empty hfield, foldl_pushField_of_ne hrest field.described_ne,
    ne_eq, String.append_eq_empty_iff]
  exact fun hempty => field.described_ne hempty.1

variable {before after others : List Field} {value : Value}

theorem messageOf_sentence_first (value : Value) (others : List Field) :
    messageOf (⟨"message", value⟩ :: others) = others.foldl pushField value.written :=
  rfl

/-- A sentence recorded behind other fields goes in front of them and of a space. -/
theorem messageOf_sentence_behind (hbefore : ∀ field ∈ before, field.name ≠ "message")
    (hafter : ∀ field ∈ after, field.name ≠ "message") (hne : before ≠ []) :
    messageOf (before ++ ⟨"message", value⟩ :: after) =
      value.written ++ behind (before ++ after) := by
  have hpushed : pushField (before.foldl pushField "") ⟨"message", value⟩ =
      value.written ++ behind before := by
    rw [pushField, if_pos rfl, if_neg (foldl_pushField_ne hbefore hne), String.append_assoc,
      space_foldl_pushField hbefore hne]
  have hfilled : value.written ++ behind before ≠ "" := by
    rw [← space_foldl_pushField hbefore hne, ne_eq, String.append_eq_empty_iff,
      String.append_eq_empty_iff]
    exact fun hempty => foldl_pushField_ne hbefore hne hempty.2.2
  rw [messageOf, List.foldl_append, List.foldl_cons, hpushed,
    foldl_pushField_of_ne hafter hfilled, behind_append, String.append_assoc]

/-- What a sentence recorded first makes of an event: the pieces that say something, with spaces
between them. -/
theorem messageOf_sentence_first_eq (h : ∀ field ∈ others, field.name ≠ "message") :
    messageOf (⟨"message", value⟩ :: others) =
      " ".intercalate ((if value.written = "" then [] else [value.written]) ++
        others.map Field.described) := by
  rw [messageOf_sentence_first]
  by_cases hempty : value.written = ""
  · rw [if_pos hempty, hempty, List.nil_append]
    cases others with
    | nil => exact String.intercalate_nil.symm
    | cons field rest =>
        obtain ⟨hfield, hrest⟩ := List.forall_mem_cons.mp h
        rw [List.foldl_cons, pushField_empty hfield,
          foldl_pushField_of_ne hrest field.described_ne, List.map_cons, intercalate_described]
  · rw [if_neg hempty, foldl_pushField_of_ne h hempty, List.singleton_append,
      intercalate_described]

/-- Wherever the sentence was recorded, the message is the one it makes when recorded first, unless
it is empty and came behind other fields; then a space is in front of that. Events with the same
message make the same lines, whatever was written before. -/
theorem messageOf_sentence_anywhere_iff (value : Value) (before after : List Field)
    (hbefore : ∀ field ∈ before, field.name ≠ "message")
    (hafter : ∀ field ∈ after, field.name ≠ "message") :
    let sentence : Field := ⟨"message", value⟩
    let recorded := before ++ sentence :: after
    let inFront := sentence :: (before ++ after)
    messageOf inFront =
        " ".intercalate ((if value.written = "" then [] else [value.written]) ++
          (before ++ after).map Field.described) ∧
      (messageOf recorded = messageOf inFront ↔ value.written ≠ "" ∨ before = []) ∧
      (value.written = "" → before ≠ [] → messageOf recorded = " " ++ messageOf inFront) ∧
      (value.written ≠ "" ∨ before = [] →
        ∀ (stamp : String) (filter : RepeatFilter) (now : Nat) (level : Level) (target : String)
          (rest : List (Nat × Event)),
          warningLines stamp filter ((now, ⟨level, target, recorded⟩) :: rest) =
            warningLines stamp filter ((now, ⟨level, target, inFront⟩) :: rest)) := by
  intro sentence recorded inFront
  have hothers : ∀ field ∈ before ++ after, field.name ≠ "message" :=
    List.forall_mem_append.mpr ⟨hbefore, hafter⟩
  have hspaced : value.written = "" → before ≠ [] →
      messageOf recorded = " " ++ messageOf inFront := by
    intro hempty hne
    calc messageOf recorded
        = value.written ++ behind (before ++ after) :=
          messageOf_sentence_behind hbefore hafter hne
      _ = behind (before ++ after) := by rw [hempty, String.empty_append]
      _ = " " ++ (before ++ after).foldl pushField "" :=
          (space_foldl_pushField hothers (List.append_ne_nil_of_left_ne_nil hne after)).symm
      _ = " " ++ messageOf inFront := by rw [messageOf_sentence_first, hempty]
  have hsame : value.written ≠ "" ∨ before = [] → messageOf recorded = messageOf inFront := by
    rintro (hfilled | hnil)
    · by_cases hne : before = []
      · simp only [recorded, inFront, hne, List.nil_append]
      · rw [messageOf_sentence_behind hbefore hafter hne, messageOf_sentence_first,
          foldl_pushField_of_ne hothers hfilled]
    · simp only [recorded, inFront, hnil, List.nil_append]
  refine ⟨messageOf_sentence_first_eq hothers, ⟨fun heq => ?_, hsame⟩, hspaced,
    fun h stamp filter now level target rest => ?_⟩
  · refine Decidable.byContradiction fun hnot => ?_
    obtain ⟨hempty, hne⟩ := not_or.mp hnot
    have hlonger := hspaced (Decidable.not_not.mp hempty) hne
    rw [heq] at hlonger
    have hlength := congrArg String.length hlonger
    rw [String.length_append] at hlength
    exact absurd hlength (Nat.ne_of_lt (Nat.lt_add_of_pos_left Nat.one_pos))
  · simp only [warningLines, hsame h]

/-- A sentence recorded between two fields. -/
theorem message_of_sentence_between :
    messageOf [⟨"code", .shown "1"⟩, ⟨"message", .text "failed"⟩, ⟨"tool", .text "pdm"⟩] =
      messageOf [⟨"message", .text "failed"⟩, ⟨"code", .shown "1"⟩, ⟨"tool", .text "pdm"⟩] := by
  obtain ⟨-, hiff, -⟩ := messageOf_sentence_anywhere_iff (.text "failed") [⟨"code", .shown "1"⟩]
    [⟨"tool", .text "pdm"⟩] (by decide) (by decide)
  exact hiff.mpr (Or.inl (by decide))

/-- An empty sentence behind a field leaves a space in front. -/
theorem message_not_as_sentence_first :
    ¬∀ (value : Value) (before after : List Field),
      (∀ field ∈ before, field.name ≠ "message") → (∀ field ∈ after, field.name ≠ "message") →
      messageOf (before ++ ⟨"message", value⟩ :: after) =
        messageOf (⟨"message", value⟩ :: (before ++ after)) := by
  intro h
  have heq := h (.text "") [⟨"code", .shown "1"⟩] [⟨"tool", .text "v"⟩] (by decide) (by decide)
  exact absurd heq (by decide +kernel)

end EnvScout.Log
