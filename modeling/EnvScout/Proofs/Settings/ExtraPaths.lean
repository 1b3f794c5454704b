import EnvScout.Proofs.Firsts
import EnvScout.Proofs.Settings.Members

/-!
Merging paths into the list of extra paths. The list that comes of it holds the first of the entries
that are the same path, and nothing else in the settings changes; settings without a place for the
list stay as they are. So merges one after the other come to one merge.
-/

namespace EnvScout

namespace Json

theorem setMember_setMember (key : String) (value other : Json) (members : List (String × Json)) :
    setMember key value (setMember key other members) = setMember key value members := by
  induction members with
  | nil => simp [setMember]
  | cons member rest ih =>
      by_cases hkey : member.1 = key
      · simp [setMember, hkey]
      · simp [setMember, hkey, ih]

/-- The members of all other names. -/
def others (key : String) (members : List (String × Json)) : List (String × Json) :=
  members.filter (·.1 ≠ key)

theorem others_setMember (key : String) (value : Json) (members : List (String × Json)) :
    others key (setMember key value members) = others key members := by
  induction members with
  | nil => simp [setMember, others]
  | cons member rest ih =>
      unfold others at ih ⊢
      by_cases hkey : member.1 = key
      · simp [setMember, hkey]
      · rw [setMember, if_neg hkey, List.filter_cons, List.filter_cons, ih]

end Json

namespace Settings

/-- The settings have a place for the list, and these items in it: none where the list, or the
object it belongs in, is missing, or where it is null. -/
inductive Lists : Json → List Json → Prop
  | listed {members analysis : Members} {items : List Json}
      (hanalysis : members.lookup "analysis" = some (.object analysis))
      (hlist : analysis.lookup "extraPaths" = some (.array items)) : Lists (.object members) items
  | null {members analysis : Members}
      (hanalysis : members.lookup "analysis" = some (.object analysis))
      (hlist : analysis.lookup "extraPaths" = some .null) : Lists (.object members) []
  | unlisted {members analysis : Members}
      (hanalysis : members.lookup "analysis" = some (.object analysis))
      (hlist : analysis.lookup "extraPaths" = none) : Lists (.object members) []
  | unanalysed {members : Members} (hanalysis : members.lookup "analysis" = none) :
      Lists (.object members) []

/-- Something other than an object, a list or null stands where the list would be. -/
inductive Unlistable : Json → Prop
  | settings {settings : Json} (h : ∀ members, settings ≠ .object members) : Unlistable settings
  | analysis {members : Members} {value : Json} (hanalysis : members.lookup "analysis" = some value)
      (h : ∀ analysis, value ≠ .object analysis) : Unlistable (.object members)
  | list {members analysis : Members} {value : Json}
      (hanalysis : members.lookup "analysis" = some (.object analysis))
      (hlist : analysis.lookup "extraPaths" = some value) (hnull : value ≠ .null)
      (h : ∀ items, value ≠ .array items) : Unlistable (.object members)

/-- What is found where the list belongs. -/
def analysisOf (members : Members) : Members :=
  match members.lookup "analysis" with
  | some (.object analysis) => analysis
  | _ => []

/-- These items are the list now, and everything else in the settings is as it was before. -/
inductive Relisted : Json → Json → List Json → Prop
  | intro {members written analysis : Members} {items : List Json}
      (hanalysis : written.lookup "analysis" = some (.object analysis))
      (hlist : analysis.lookup "extraPaths" = some (.array items))
      (hsettings : Json.others "analysis" written = Json.others "analysis" members)
      (hothers : Json.others "extraPaths" analysis =
        Json.others "extraPaths" (analysisOf members)) :
      Relisted (.object members) (.object written) items

variable {members : Members} {items : List Json}

theorem extraPaths?_cases (members : Members) :
    (∃ items, extraPaths? members = some items ∧ Lists (.object members) items) ∨
      extraPaths? members = none ∧ Unlistable (.object members) := by
  rw [extraPaths?]
  cases hanalysis : members.lookup "analysis" with
  | none => exact .inl ⟨_, rfl, .unanalysed hanalysis⟩
  | some value =>
      cases value with
      | object analysis =>
          dsimp only
          cases hlist : analysis.lookup "extraPaths" with
          | none => exact .inl ⟨_, rfl, .unlisted hanalysis hlist⟩
          | some value =>
              cases value with
              | null => exact .inl ⟨_, rfl, .null hanalysis hlist⟩
              | array items => exact .inl ⟨_, rfl, .listed hanalysis hlist⟩
              | _ => exact .inr ⟨rfl, .list hanalysis hlist nofun nofun⟩
      | _ => exact .inr ⟨rfl, .analysis hanalysis nofun⟩

theorem setExtraPaths_eq (members : Members) (items : List Json) :
    setExtraPaths members items =
      Json.setMember "analysis"
        (.object (Json.setMember "extraPaths" (.array items) (analysisOf members))) members :=
  rfl

theorem analysisOf_setExtraPaths (members : Members) (items : List Json) :
    analysisOf (setExtraPaths members items) =
      Json.setMember "extraPaths" (.array items) (analysisOf members) := by
  rw [analysisOf, setExtraPaths_eq, Json.lookup_setMember, if_pos rfl]

theorem extraPaths?_setExtraPaths (members : Members) (items : List Json) :
    extraPaths? (setExtraPaths members items) = some items := by
  simp [extraPaths?, setExtraPaths_eq, Json.lookup_setMember]

/-- Setting the list again leaves nothing of the first time. -/
theorem setExtraPaths_setExtraPaths (members : Members) (items others : List Json) :
    setExtraPaths (setExtraPaths members others) items = setExtraPaths members items := by
  rw [setExtraPaths_eq _ items, analysisOf_setExtraPaths, Json.setMember_setMember,
    setExtraPaths_eq members others, Json.setMember_setMember, ← setExtraPaths_eq]

theorem relisted_setExtraPaths (members : Members) (items : List Json) :
    Relisted (.object members) (.object (setExtraPaths members items)) items := by
  have hanalysis : (setExtraPaths members items).lookup "analysis" =
      some (.object (Json.setMember "extraPaths" (.array items) (analysisOf members))) := by
    rw [setExtraPaths_eq, Json.lookup_setMember, if_pos rfl]
  refine .intro hanalysis ?_ (Json.others_setMember ..) (Json.others_setMember ..)
  rw [Json.lookup_setMember, if_pos rfl]

/-- What a text says as a path. -/
def pathKey (text : String) : List Path.Component :=
  (Path.ofText text).components

/-- The texts kept behind `front` are those of which `front` and what is before them have not the
path. -/
theorem firstsBy_append_eq (front rest : List String) (seen : List Path)
    (hseen : ∀ text, (∃ p ∈ seen, p.Same (.ofText text)) ↔ pathKey text ∈ front.map pathKey) :
    firstsBy pathKey (front ++ rest) = firstsBy pathKey front ++ firstsAfter seen rest := by
  induction rest generalizing front seen with
  | nil => rw [firstsAfter, List.append_nil, List.append_nil]
  | cons text rest ih =>
      have hany : (seen.any fun p => p.Same (.ofText text)) = true ↔
          pathKey text ∈ front.map pathKey := by
        rw [← hseen, List.any_eq_true]
        simp only [decide_eq_true_eq]
      rw [List.append_cons, firstsAfter]
      by_cases hold : pathKey text ∈ front.map pathKey
      · rw [if_pos (hany.mpr hold), ih (front ++ [text]) seen, firstsBy_concat, if_pos hold]
        intro other
        rw [hseen, List.map_append, List.mem_append, List.map_singleton, List.mem_singleton,
          or_iff_left_of_imp]
        intro heq
        rwa [heq]
      · rw [if_neg fun h => hold (hany.mp h), ih (front ++ [text]) (.ofText text :: seen),
          firstsBy_concat, if_neg hold, List.append_assoc, List.singleton_append]
        intro other
        rw [List.exists_mem_cons_iff, hseen, List.map_append, List.mem_append, List.map_singleton,
          List.mem_singleton, or_comm]
        exact or_congr Iff.rfl eq_comm

theorem firsts_eq_firstsBy (texts : List String) : firsts texts = firstsBy pathKey texts :=
  (firstsBy_append_eq [] texts [] (by simp)).symm

/-- The new texts and those already listed, in the order in which they are listed together. -/
def together : MergeOrder → List String → List String → List String
  | .prepend, new, current => new ++ current
  | .append, new, current => current ++ new
  | .replace, new, _ => new

theorem merge_eq (order : MergeOrder) (new current : List String) :
    merge order new current = firstsBy pathKey (together order new current) := by
  cases order <;> exact firsts_eq_firstsBy _

example : merge .prepend ["/a/", "/b/./c"] ["/a", "/d", "/b//c"] = ["/a/", "/b/./c", "/d"] := by
  decide +kernel

theorem merge_prepend_prepend (first second current : List String) :
    merge .prepend second (merge .prepend first current) =
      merge .prepend (second ++ first) current := by
  simp only [merge_eq, together]
  rw [firstsBy_append_firstsBy, List.append_assoc]

theorem merge_append_append (first second current : List String) :
    merge .append second (merge .append first current) =
      merge .append (first ++ second) current := by
  simp only [merge_eq, together]
  rw [firstsBy_firstsBy_append, List.append_assoc]

theorem merge_merge (order : MergeOrder) (new current : List String) :
    merge order new (merge order new current) = merge order new current := by
  have hagain : ∀ text ∈ new, pathKey text ∈ new.map pathKey := fun text =>
    List.mem_map_of_mem
  cases order with
  | prepend =>
      rw [merge_prepend_prepend]
      simp only [merge_eq, together]
      refine firstsBy_append_congr ?_ current
      exact firstsBy_append_of_subset hagain
  | append =>
      simp only [merge_eq, together]
      rw [firstsBy_firstsBy_append, firstsBy_append_of_subset fun text htext => ?_]
      rw [List.map_append]
      exact List.mem_append_right _ (hagain text htext)
  | replace => rfl

theorem filterMap_string? (texts : List String) :
    (texts.map Json.string).filterMap Json.string? = texts := by
  rw [List.filterMap_map]
  exact List.filterMap_some

theorem inject_of_extraPaths? (order : MergeOrder) (paths : List String)
    (h : extraPaths? members = some items) :
    inject order paths (.object members) =
      .object (setExtraPaths members ((mergedPaths order paths items).map Json.string)) := by
  rw [inject, h]

theorem inject_of_extraPaths?_none (order : MergeOrder) (paths : List String)
    (h : extraPaths? members = none) :
    inject order paths (.object members) = .object members := by
  rw [inject, h]

/-- Two merges into the settings come to one where they do so for every list. -/
theorem inject_inject {first second order : MergeOrder} {new more paths : List String}
    (h : ∀ current, merge second more (merge first new current) = merge order paths current)
    (settings : Json) :
    inject second more (inject first new settings) = inject order paths settings := by
  cases settings with
  | object members =>
      cases hitems : extraPaths? members with
      | some items =>
          rw [inject_of_extraPaths? first new hitems, inject_of_extraPaths? order paths hitems,
            inject_of_extraPaths? second more (extraPaths?_setExtraPaths members _),
            setExtraPaths_setExtraPaths, mergedPaths, filterMap_string?, mergedPaths, h,
            mergedPaths]
      | none => simp only [inject_of_extraPaths?_none _ _ hitems]
  | _ => rfl

/-- Where settings have a place for the list, merging leaves in it the first of the entries that are
the same path, out of the new ones and the texts listed, and everything else as it was; where they
have none, all stays as it was. Merges in front and merges behind come to one merge of them all, a
list that is replaced leaves nothing of what was merged before, and merging again changes
nothing. -/
theorem inject_merges_first_paths (order : MergeOrder) (paths : List String) (settings : Json) :
    (Unlistable settings ∧ inject order paths settings = settings ∨
      ∃ items, Lists settings items ∧
        Relisted settings (inject order paths settings)
          ((firstsBy (fun text => (Path.ofText text).components)
            (together order paths (items.filterMap Json.string?))).map Json.string)) ∧
    (∀ more, inject .prepend more (inject .prepend paths settings) =
      inject .prepend (more ++ paths) settings) ∧
    (∀ more, inject .append more (inject .append paths settings) =
      inject .append (paths ++ more) settings) ∧
    (∀ more, inject .replace more (inject order paths settings) =
      inject .replace more settings) ∧
    inject order paths (inject order paths settings) = inject order paths settings := by
  refine ⟨?_, fun more => inject_inject (merge_prepend_prepend paths more) settings,
    fun more => inject_inject (merge_append_append paths more) settings,
    fun more => inject_inject (fun _ => rfl) settings,
    inject_inject (merge_merge order paths) settings⟩
  cases settings with
  | object members =>
      rcases extraPaths?_cases members with ⟨items, hitems, hlists⟩ | ⟨hnone, hunlistable⟩
      · refine .inr ⟨items, hlists, ?_⟩
        rw [inject_of_extraPaths? order paths hitems, mergedPaths, merge_eq]
        exact relisted_setExtraPaths members _
      · exact .inl ⟨hunlistable, inject_of_extraPaths?_none order paths hnone⟩
  | _ => exact .inl ⟨.settings nofun, rfl⟩

end Settings

end EnvScout
