import Descent.Proofs.Survival

namespace Descent

namespace Tree

def valuesUnder (key : String) : Tree → List Tree
  | .dict entries => (entries.filter (·.1 == key)).map (·.2)
  | _ => []

-- Values as a merged dictionary keeps them under their key.
def collect : List Tree → List Tree
  | [] => []
  | values => [settle values]

variable {key : String}

@[simp]
theorem collect_nil : collect [] = [] := rfl

@[simp]
theorem collect_singleton (value : Tree) : collect [value] = [value] := rfl

@[simp]
theorem collect_collect (values : List Tree) : collect (collect values) = collect values := by
  cases values <;> rfl

-- What is filed under a key: nothing, or one entry with all values so far.
def filedUnder (key : String) (values : List Tree) : List (String × List Tree) :=
  if values = [] then [] else [(key, values)]

theorem filter_file_other {k : String} {filed : List (String × List Tree)} (value : Tree)
    (hk : k ≠ key) :
    (file k value filed).filter (·.1 == key) = filed.filter (·.1 == key) := by
  induction filed with
  | nil => simp [file, hk]
  | cons e rest ih =>
      obtain ⟨k', values⟩ := e
      by_cases hsame : k' = k
      · simp [file, hsame, hk]
      · simp [file, hsame, List.filter_cons, ih]

theorem filter_file_same {values : List Tree} {filed : List (String × List Tree)} (value : Tree)
    (h : filed.filter (·.1 == key) = filedUnder key values) :
    (file key value filed).filter (·.1 == key) = filedUnder key (values ++ [value]) := by
  induction filed with
  | nil =>
      have hnone : values = [] := by
        by_contra hne
        simp [filedUnder, hne] at h
      simp [file, filedUnder, hnone]
  | cons e rest ih =>
      obtain ⟨k, held⟩ := e
      by_cases hk : k = key
      · subst k
        have hne : values ≠ [] := by
          rintro rfl
          simp [filedUnder] at h
        simp only [filedUnder, hne, if_false, List.filter_cons, beq_self_eq_true, if_true,
          List.cons.injEq, Prod.mk.injEq, true_and] at h
        obtain ⟨rfl, hrest⟩ := h
        simp [file, filedUnder, hrest]
      · simp only [List.filter_cons, beq_iff_eq, hk, if_false] at h
        simpa [file, hk, List.filter_cons] using ih h

theorem filter_foldl_file {values : List Tree} {filed : List (String × List Tree)}
    (entries : List (String × Tree)) (h : filed.filter (·.1 == key) = filedUnder key values) :
    (entries.foldl (fun acc e => file e.1 e.2 acc) filed).filter (·.1 == key) =
      filedUnder key (values ++ valuesUnder key (.dict entries)) := by
  induction entries generalizing filed values with
  | nil => simpa [valuesUnder] using h
  | cons e rest ih =>
      obtain ⟨k, value⟩ := e
      by_cases hk : k = key
      · subst k
        have hrest := ih (filter_file_same value h)
        simpa [valuesUnder, List.filter_cons] using hrest
      · have hrest := ih ((filter_file_other value hk).trans h)
        simpa [valuesUnder, List.filter_cons, hk] using hrest

theorem filter_filed (entries : List (String × Tree)) :
    (entries.foldl (fun acc e => file e.1 e.2 acc) []).filter (·.1 == key) =
      filedUnder key (valuesUnder key (.dict entries)) := by
  have hnone : ([] : List (String × List Tree)).filter (·.1 == key) = filedUnder key [] := rfl
  simpa using filter_foldl_file entries hnone

-- What becomes of entries that come together in one dictionary.
def collate (entries : List (String × Tree)) : List (String × Tree) :=
  merge [entries]

theorem merge_eq_collate (dicts : List (List (String × Tree))) :
    merge dicts = collate dicts.flatten := by
  simp [collate, merge]

-- A key that comes again has its values in one list.
theorem valuesUnder_collate (entries : List (String × Tree)) :
    valuesUnder key (.dict (collate entries)) = collect (valuesUnder key (.dict entries)) := by
  have hfiled : _ = filedUnder key _ := filter_filed entries
  simp only [valuesUnder, collate, merge, List.flatten_cons, List.flatten_nil, List.append_nil,
    List.filter_map, Function.comp_def, List.map_map] at hfiled ⊢
  rw [hfiled]
  cases (entries.filter (·.1 == key)).map (·.2) <;> rfl

theorem valuesUnder_append (key : String) (xs ys : List (String × Tree)) :
    valuesUnder key (.dict (xs ++ ys)) =
      valuesUnder key (.dict xs) ++ valuesUnder key (.dict ys) := by
  simp [valuesUnder]

def entries : Tree → List (String × Tree)
  | .dict entries => entries
  | _ => []

theorem entries_void {t : Tree} (h : t.isVoid) : t.entries = [] := by
  cases t with
  | dict entries =>
      cases entries with
      | nil => rfl
      | cons e rest => cases h
  | _ => rfl

theorem flatten_entries (items : List Tree) :
    (items.filterMap entries?).flatten = items.flatMap entries := by
  induction items with
  | nil => rfl
  | cons t rest ih =>
      rw [List.flatMap_cons, ← ih]
      cases t with
      | text t => rw [List.filterMap_cons_none rfl]; rfl
      | list ts => rw [List.filterMap_cons_none rfl]; rfl
      | dict es =>
          have hentries : entries? (.dict es) = some es := rfl
          rw [List.filterMap_cons_some hentries]
          rfl

theorem valuesUnder_eq_entries (key : String) (t : Tree) :
    valuesUnder key t = valuesUnder key (.dict t.entries) := by
  cases t <;> rfl

-- A sequence has the entries of its items, collated.
theorem entries_gather (items : List Tree) :
    (gather items).toList.flatMap entries = collate (items.flatMap entries) := by
  have hkept : (items.filter (!·.isVoid)).flatMap entries = items.flatMap entries := by
    induction items with
    | nil => rfl
    | cons t rest ih =>
        by_cases hvoid : t.isVoid
        · simp [hvoid, entries_void hvoid, ih]
        · simp [hvoid, ih]
  rw [← hkept, ← flatten_entries (items.filter (!·.isVoid)), ← merge_eq_collate, gather]
  by_cases hempty : items.filter (!·.isVoid) = []
  · simp [hempty, merge]
  · by_cases hplain : (items.filter (!·.isVoid)).filterMap entries? = []
    · simp [hempty, hplain, merge, entries]
    · simp [hempty, hplain, entries]

theorem ofMatch_leaves (ts : List Text) :
    ofMatch (.seq (ts.map .leaf)) = .ok (if ts = [] then none else some (.list (ts.map .text))) := by
  have hitems : ofItems (ts.map .leaf) = .ok (ts.map .text) := by
    induction ts with
    | nil => rfl
    | cons t rest ih =>
        rw [List.map_cons, ofItems, ih]
        rfl
  rw [ofMatch, hitems]
  cases ts with
  | nil => rfl
  | cons t rest =>
      have hsolid : ((t :: rest).map text).filter (!·.isVoid) = (t :: rest).map text := by
        rw [List.filter_eq_self]
        simp [isVoid]
      have hplain : ((t :: rest).map text).filterMap entries? = [] := by
        rw [List.filterMap_eq_nil_iff]
        simp [entries?]
      exact congrArg Except.ok (gather_list hsolid (by simp) hplain)

end Tree

namespace Match

@[simp]
theorem genuine_empty : Genuine .empty := .empty

@[simp]
theorem genuine_leaf (t : Text) : Genuine (.leaf t) := .leaf t

@[simp]
theorem genuine_labeled {name : String} {m : Match} :
    Genuine (.labeled name m) ↔ m.Genuine where
  mp h := by cases h; assumption
  mpr h := .labeled h

@[simp]
theorem genuine_seq {ms : List Match} : Genuine (.seq ms) ↔ ∀ m ∈ ms, m.Genuine where
  mp h := by cases h; assumption
  mpr h := .seq h

-- The values that the tree of a match holds under a key.
def valuesUnder (key : String) (m : Match) : List Tree :=
  match Tree.ofMatch m with
  | .ok built => built.toList.flatMap (Tree.valuesUnder key)
  | .error _ => []

variable {key name : String} {m : Match} {ms : List Match} {t : Tree}

theorem valuesUnder_of_built {built : Option Tree} (h : Tree.ofMatch m = .ok built) :
    m.valuesUnder key = built.toList.flatMap (Tree.valuesUnder key) := by
  simp [valuesUnder, h]

@[simp]
theorem valuesUnder_empty : valuesUnder key .empty = [] := rfl

@[simp]
theorem valuesUnder_leaf (text : Text) : valuesUnder key (.leaf text) = [] := rfl

theorem valuesUnder_labeled (h : Tree.ofMatch m = .ok (some t)) (hsolid : t.isVoid = false) :
    valuesUnder key (.labeled name m) = if name = key then [t] else [] := by
  have hbuilt : Tree.ofMatch (.labeled name m) = .ok (some (.dict [(name, t)])) := by
    rw [Tree.ofMatch, h]
    simp [Tree.underLabel, hsolid, bind, Except.bind, pure, Except.pure]
  rw [valuesUnder_of_built hbuilt]
  by_cases hname : name = key <;> simp [Tree.valuesUnder, hname]

theorem valuesUnder_labeled_none (h : Tree.ofMatch m = .ok none) :
    valuesUnder key (.labeled name m) = [] := by
  have hbuilt : Tree.ofMatch (.labeled name m) = .ok none := by
    rw [Tree.ofMatch, h]
    rfl
  rw [valuesUnder_of_built hbuilt]
  rfl

-- The entries of the dictionary that a match is folded into, if it is folded into one.
def entries (m : Match) : List (String × Tree) :=
  match Tree.ofMatch m with
  | .ok built => built.toList.flatMap Tree.entries
  | .error _ => []

theorem entries_of_built {built : Option Tree} (h : Tree.ofMatch m = .ok built) :
    m.entries = built.toList.flatMap Tree.entries := by
  simp [entries, h]

theorem valuesUnder_entries (key : String) (m : Match) :
    m.valuesUnder key = Tree.valuesUnder key (.dict m.entries) := by
  cases hbuilt : Tree.ofMatch m with
  | error value => simp [valuesUnder, entries, hbuilt, Tree.valuesUnder]
  | ok built =>
      rw [valuesUnder_of_built hbuilt, entries_of_built hbuilt]
      cases built with
      | none => rfl
      | some t => simpa using Tree.valuesUnder_eq_entries key t

theorem entries_seq (h : ∀ m ∈ ms, m.Genuine) :
    (seq ms).entries = Tree.collate (ms.flatMap entries) := by
  have hbuilt : ∀ m ∈ ms, ∃ built, Tree.ofMatch m = .ok built :=
    fun m hm => Tree.ofMatch_genuine (h m hm)
  choose! f hf using hbuilt
  have hseq : Tree.ofMatch (.seq ms) = .ok (Tree.gather (ms.filterMap f)) := by
    rw [Tree.ofMatch, Tree.ofItems_eq_ok hf]
    rfl
  rw [entries_of_built hseq, Tree.entries_gather, List.filterMap_eq_flatMap_toList,
    List.flatMap_assoc]
  congr 1
  exact List.flatMap_congr fun m hm => (entries_of_built (hf m hm)).symm

theorem valuesUnder_flatMap (key : String) (ms : List Match) :
    Tree.valuesUnder key (.dict (ms.flatMap entries)) = ms.flatMap (valuesUnder key) := by
  induction ms with
  | nil => rfl
  | cons m rest ih =>
      rw [List.flatMap_cons, Tree.valuesUnder_append, ih, ← valuesUnder_entries, List.flatMap_cons]

-- A sequence holds under a key all that its items hold under it.
theorem valuesUnder_seq (h : ∀ m ∈ ms, m.Genuine) :
    valuesUnder key (.seq ms) = Tree.collect (ms.flatMap (valuesUnder key)) := by
  rw [valuesUnder_entries, entries_seq h, Tree.valuesUnder_collate, valuesUnder_flatMap]

end Match

end Descent
