import Descent.Proofs.Genuine
import Descent.Proofs.Leaves
import Mathlib.Data.List.Perm.Basic

namespace Descent

namespace Match

-- One node stands in another at some depth, or is it.
inductive Inside (n : Match) : Match → Prop
  | refl : Inside n n
  | labeled {name : String} {v : Match} : Inside n v → Inside n (.labeled name v)
  | item {m : Match} {items : List Match} : m ∈ items → Inside n m → Inside n (.seq items)

-- A label with a leaf below it.
def Live : Match → Prop
  | .labeled _ v => ∃ t, (leaf t).Inside v
  | _ => False

def HoldsLive (m : Match) : Prop :=
  ∃ n : Match, n.Inside m ∧ n.Live

-- A leaf with the turns taken on the way down to it: at each sequence its items, and the one that
-- leads on to the leaf.
structure Occurrence where
  turns : List (List Match × Match)
  text : Text

def Occurrence.under (items : List Match) (m : Match) (o : Occurrence) : Occurrence :=
  { o with turns := (items, m) :: o.turns }

-- Wherever some item holds a live node, the way down leads through one that does.
def Occurrence.Kept (o : Occurrence) : Prop :=
  ∀ turn ∈ o.turns, (∃ m ∈ turn.1, m.HoldsLive) → turn.2.HoldsLive

mutual

def occurrences : Match → List Occurrence
  | .leaf t => [⟨[], t⟩]
  | .labeled _ v => v.occurrences
  | .seq items => occurrencesAmong items items
  | .empty | .foreign _ => []

-- The occurrences in some of the items of a sequence.
def occurrencesAmong (items : List Match) : List Match → List Occurrence
  | [] => []
  | m :: rest => m.occurrences.map (·.under items m) ++ occurrencesAmong items rest

end

@[elab_as_elim]
theorem induction {motive : Match → Prop} (empty : motive .empty) (leaf : ∀ t, motive (.leaf t))
    (labeled : ∀ name v, motive v → motive (.labeled name v))
    (seq : ∀ items, (∀ m ∈ items, motive m) → motive (.seq items))
    (foreign : ∀ value, motive (.foreign value)) (m : Match) : motive m :=
  m.rec (motive_1 := motive) (motive_2 := fun items => ∀ m ∈ items, motive m)
    empty leaf labeled seq foreign (by simp)
    (fun _ _ hm hrest => List.forall_mem_cons.mpr ⟨hm, hrest⟩)

theorem occurrencesAmong_eq_flatMap (items ms : List Match) :
    occurrencesAmong items ms = ms.flatMap fun m => m.occurrences.map (·.under items m) := by
  induction ms with
  | nil => rfl
  | cons m rest ih => rw [occurrencesAmong, ih, List.flatMap_cons]

-- Every leaf is listed once, in its place.
theorem map_text_occurrences (m : Match) : m.occurrences.map (·.text) = m.leaves := by
  induction m using Match.induction with
  | empty => simp [occurrences]
  | leaf t => simp [occurrences]
  | labeled name v ih => simpa [occurrences] using ih
  | foreign value => simp [occurrences]
  | seq items ih =>
      rw [occurrences, occurrencesAmong_eq_flatMap, List.map_flatMap, leaves_seq]
      refine List.flatMap_congr fun m hm => ?_
      rw [List.map_map, ← ih m hm]
      rfl

theorem inside_leaf_iff (m : Match) : (∃ t, (leaf t).Inside m) ↔ m.leaves ≠ [] := by
  induction m using Match.induction with
  | empty => exact ⟨by rintro ⟨t, ⟨⟩⟩, by simp⟩
  | leaf t => exact ⟨by simp, fun _ => ⟨t, .refl⟩⟩
  | foreign value => exact ⟨by rintro ⟨t, ⟨⟩⟩, by simp⟩
  | labeled name v ih =>
      rw [leaves_labeled, ← ih]
      constructor
      · rintro ⟨t, ht⟩
        cases ht with
        | labeled ht => exact ⟨t, ht⟩
      · rintro ⟨t, ht⟩
        exact ⟨t, .labeled ht⟩
  | seq items ih =>
      rw [leaves_seq]
      simp only [ne_eq, List.flatMap_eq_nil_iff, not_forall]
      constructor
      · rintro ⟨t, ht⟩
        cases ht with
        | item hm ht => exact ⟨_, hm, (ih _ hm).mp ⟨t, ht⟩⟩
      · rintro ⟨m, hm, hleaves⟩
        obtain ⟨t, ht⟩ := (ih m hm).mpr hleaves
        exact ⟨t, .item hm ht⟩

theorem not_holdsLive_empty : ¬(empty).HoldsLive := by
  rintro ⟨n, ⟨⟩, hlive⟩
  exact hlive

theorem not_holdsLive_leaf (t : Text) : ¬(leaf t).HoldsLive := by
  rintro ⟨n, ⟨⟩, hlive⟩
  exact hlive

theorem not_holdsLive_foreign (value : Plain) : ¬(foreign value).HoldsLive := by
  rintro ⟨n, ⟨⟩, hlive⟩
  exact hlive

theorem holdsLive_seq {items : List Match} :
    (seq items).HoldsLive ↔ ∃ m ∈ items, m.HoldsLive := by
  constructor
  · rintro ⟨n, hin, hlive⟩
    cases hin with
    | refl => exact hlive.elim
    | item hm hin => exact ⟨_, hm, n, hin, hlive⟩
  · rintro ⟨m, hm, n, hin, hlive⟩
    exact ⟨n, .item hm hin, hlive⟩

theorem HoldsLive.leaves_ne_nil {m : Match} (h : m.HoldsLive) : m.leaves ≠ [] := by
  obtain ⟨n, hin, hlive⟩ := h
  induction hin with
  | refl =>
      cases n with
      | labeled name v => rw [leaves_labeled]; exact (inside_leaf_iff v).mp hlive
      | _ => exact hlive.elim
  | labeled _ ih => rwa [leaves_labeled]
  | item hm _ ih =>
      rw [leaves_seq]
      exact fun h => ih (List.flatMap_eq_nil_iff.mp h _ hm)

-- The outermost label is live as soon as any text stands below it.
theorem holdsLive_labeled {name : String} {v : Match} :
    (labeled name v).HoldsLive ↔ v.leaves ≠ [] := by
  constructor
  · intro h
    simpa using h.leaves_ne_nil
  · intro h
    exact ⟨labeled name v, .refl, (inside_leaf_iff v).mpr h⟩

mutual

-- The test for live nodes, by structure.
def holdsLive : Match → Bool
  | .labeled _ v => !v.occurrences.isEmpty
  | .seq items => anyHoldsLive items
  | _ => false

def anyHoldsLive : List Match → Bool
  | [] => false
  | m :: rest => m.holdsLive || anyHoldsLive rest

end

theorem anyHoldsLive_eq_any (items : List Match) : anyHoldsLive items = items.any holdsLive := by
  induction items with
  | nil => rfl
  | cons m rest ih => rw [anyHoldsLive, ih, List.any_cons]

theorem holdsLive_iff (m : Match) : m.holdsLive = true ↔ m.HoldsLive := by
  induction m using Match.induction with
  | empty => simp [holdsLive, not_holdsLive_empty]
  | leaf t => simp [holdsLive, not_holdsLive_leaf]
  | foreign value => simp [holdsLive, not_holdsLive_foreign]
  | labeled name v ih => simp [holdsLive, holdsLive_labeled, ← map_text_occurrences]
  | seq items ih =>
      rw [holdsLive, anyHoldsLive_eq_any, List.any_eq_true, holdsLive_seq]
      exact ⟨fun ⟨m, hm, h⟩ => ⟨m, hm, (ih m hm).mp h⟩, fun ⟨m, hm, h⟩ => ⟨m, hm, (ih m hm).mpr h⟩⟩

instance : DecidablePred HoldsLive :=
  fun m => decidable_of_iff (m.holdsLive = true) (holdsLive_iff m)

instance : DecidablePred Occurrence.Kept :=
  fun o => inferInstanceAs
    (Decidable (∀ turn ∈ o.turns, (∃ m ∈ turn.1, m.HoldsLive) → turn.2.HoldsLive))

-- The texts of the leaves that are kept, in their order.
def keptTexts (m : Match) : List Text :=
  (m.occurrences.filter (·.Kept)).map (·.text)

theorem keptTexts_labeled (name : String) (v : Match) :
    (labeled name v).keptTexts = v.keptTexts := rfl

theorem Occurrence.kept_under {items : List Match} {m : Match} {o : Occurrence} :
    (o.under items m).Kept ↔ ((seq items).HoldsLive → m.HoldsLive) ∧ o.Kept := by
  rw [holdsLive_seq]
  exact List.forall_mem_cons

-- What is kept of an item of a sequence: all that is kept in it, or nothing.
theorem keptTexts_under (items : List Match) (m : Match) :
    ((m.occurrences.map (·.under items m)).filter (·.Kept)).map (·.text) =
      if (seq items).HoldsLive → m.HoldsLive then m.keptTexts else [] := by
  rw [List.filter_map, List.map_map]
  split
  · rename_i hm
    have hkept : ∀ o ∈ m.occurrences, decide (o.under items m).Kept = decide o.Kept := by
      intro o _
      exact decide_eq_decide.mpr (Occurrence.kept_under.trans (and_iff_right hm))
    exact congrArg (List.map (·.text)) (List.filter_congr hkept)
  · rename_i hm
    have hdropped : ∀ o ∈ m.occurrences, ¬(o.under items m).Kept := by
      intro o _ h
      exact hm (Occurrence.kept_under.mp h).1
    have hnil : m.occurrences.filter (fun o => (o.under items m).Kept) = [] := by
      simpa [List.filter_eq_nil_iff] using hdropped
    exact congrArg (List.map (·.text)) hnil

theorem keptTexts_seq (items : List Match) :
    (seq items).keptTexts = items.flatMap fun m =>
      if (seq items).HoldsLive → m.HoldsLive then m.keptTexts else [] := by
  rw [keptTexts, occurrences, occurrencesAmong_eq_flatMap, List.filter_flatMap, List.map_flatMap]
  exact List.flatMap_congr fun m _ => keptTexts_under items m

end Match

namespace Tree

mutual

-- The strings of a tree at any depth, from left to right; keys are not among them.
def strings : Tree → List Text
  | .text t => [t]
  | .list items => stringsOfItems items
  | .dict entries => stringsOfEntries entries

def stringsOfItems : List Tree → List Text
  | [] => []
  | t :: rest => t.strings ++ stringsOfItems rest

def stringsOfEntries : List (String × Tree) → List Text
  | [] => []
  | (_, t) :: rest => t.strings ++ stringsOfEntries rest

end

-- No tree at all has no strings.
def stringsOf (built : Option Tree) : List Text :=
  built.elim [] strings

@[simp]
theorem strings_text (t : Text) : (text t).strings = [t] := rfl

@[simp]
theorem strings_list (items : List Tree) : (list items).strings = items.flatMap strings := by
  rw [strings]
  induction items with
  | nil => rfl
  | cons t rest ih => rw [stringsOfItems, ih, List.flatMap_cons]

@[simp]
theorem strings_dict (entries : List (String × Tree)) :
    (dict entries).strings = entries.flatMap (·.2.strings) := by
  rw [strings]
  induction entries with
  | nil => rfl
  | cons e rest ih => rw [stringsOfEntries, ih, List.flatMap_cons]

theorem strings_settle (values : List Tree) : (settle values).strings = values.flatMap strings := by
  unfold settle
  split
  · simp
  · simp

-- What has been filed so far.
def filedStrings (filed : List (String × List Tree)) : List Text :=
  filed.flatMap fun e => e.2.flatMap strings

theorem filedStrings_file_perm (key : String) (value : Tree) (filed : List (String × List Tree)) :
    (filedStrings (file key value filed)).Perm (filedStrings filed ++ value.strings) := by
  induction filed with
  | nil => simp [filedStrings, file]
  | cons e rest ih =>
      obtain ⟨k, values⟩ := e
      by_cases hk : k = key
      · simpa [filedStrings, file, hk] using List.perm_append_comm.append_left _
      · simpa [filedStrings, file, hk] using ih.append_left _

theorem filedStrings_foldl_perm (entries : List (String × Tree))
    (filed : List (String × List Tree)) :
    (filedStrings (entries.foldl (fun acc e => file e.1 e.2 acc) filed)).Perm
      (filedStrings filed ++ entries.flatMap (·.2.strings)) := by
  induction entries generalizing filed with
  | nil => simp
  | cons e rest ih =>
      have hfirst := (filedStrings_file_perm e.1 e.2 filed).append_right
        (rest.flatMap (·.2.strings))
      simpa using (ih (file e.1 e.2 filed)).trans hfirst

-- Merging regroups values and loses none.
theorem strings_merge_perm (dicts : List (List (String × Tree))) :
    (dict (merge dicts)).strings.Perm (dicts.flatten.flatMap (·.2.strings)) := by
  have hfiled := filedStrings_foldl_perm dicts.flatten []
  simpa [merge, filedStrings, List.flatMap_map, strings_settle] using hfiled

theorem file_ne_nil (key : String) (value : Tree) (filed : List (String × List Tree)) :
    file key value filed ≠ [] := by
  cases filed with
  | nil => simp [file]
  | cons e rest =>
      unfold file
      split <;> simp

theorem foldl_file_ne_nil (entries : List (String × Tree)) (filed : List (String × List Tree))
    (h : filed ≠ []) : entries.foldl (fun acc e => file e.1 e.2 acc) filed ≠ [] := by
  induction entries generalizing filed with
  | nil => exact h
  | cons e rest ih => exact ih _ (file_ne_nil e.1 e.2 filed)

theorem merge_ne_nil {dicts : List (List (String × Tree))} (h : dicts.flatten ≠ []) :
    merge dicts ≠ [] := by
  unfold merge
  cases hentries : dicts.flatten with
  | nil => exact absurd hentries h
  | cons e rest =>
      have hfiled := foldl_file_ne_nil rest (file e.1 e.2 []) (file_ne_nil e.1 e.2 [])
      simpa using hfiled

-- What a match has become: the kind of the tree, and the strings in it.
structure Folds (m : Match) (built : Option Tree) : Prop where
  solid : ∀ t, built = some t → t.isVoid = false
  none_iff : built = none ↔ m.leaves = []
  text_iff : ∀ t, built = some (.text t) ↔ m = .leaf t
  dict_iff : (∃ entries, built = some (.dict entries)) ↔ m.HoldsLive
  kept : (stringsOf built).Perm m.keptTexts
  whole : ¬m.HoldsLive → stringsOf built = m.leaves

theorem folds_empty : Folds .empty none where
  solid := by simp
  none_iff := by simp
  text_iff := by simp
  dict_iff := by simp [Match.not_holdsLive_empty]
  kept := .refl _
  whole _ := by simp [stringsOf]

theorem folds_leaf (t : Text) : Folds (.leaf t) (some (.text t)) where
  solid := by simp [isVoid]
  none_iff := by simp
  text_iff := by simp
  dict_iff := by simp [Match.not_holdsLive_leaf]
  kept := .refl _
  whole _ := by simp [stringsOf]

theorem Folds.labeled {v : Match} {built : Option Tree} (name : String) (h : Folds v built) :
    Folds (.labeled name v) (underLabel name built) := by
  cases built with
  | none =>
      have hv := h.none_iff.mp rfl
      exact {
        solid := by simp [underLabel]
        none_iff := by simp [underLabel, hv]
        text_iff := by simp [underLabel]
        dict_iff := by simp [underLabel, Match.holdsLive_labeled, hv]
        kept := h.kept
        whole := fun _ => by simpa [underLabel, stringsOf] using hv.symm }
  | some t =>
      have hv : v.leaves ≠ [] := fun hv => by simpa using h.none_iff.mpr hv
      have hunder : underLabel name (some t) = some (.dict [(name, t)]) := by
        simp [underLabel, h.solid t rfl]
      rw [hunder]
      exact {
        solid := by simp [isVoid]
        none_iff := by simpa using hv
        text_iff := by simp
        dict_iff := by simpa [Match.holdsLive_labeled] using hv
        kept := by simpa [stringsOf, Match.keptTexts_labeled] using h.kept
        whole := fun hlive => absurd (Match.holdsLive_labeled.mpr hv) hlive }

theorem Folds.entries?_eq_none_iff {m : Match} {built : Option Tree} (h : Folds m built) :
    built.bind entries? = none ↔ ¬m.HoldsLive := by
  rw [← h.dict_iff]
  rcases built with _ | (t | ts | entries) <;> simp [entries?]

theorem ofItems_eq_ok {items : List Match} {f : Match → Option Tree}
    (h : ∀ m ∈ items, ofMatch m = .ok (f m)) : ofItems items = .ok (items.filterMap f) := by
  induction items with
  | nil => rfl
  | cons m rest ih =>
      have hm := h m (by simp)
      have hrest := ih fun n hn => h n (by simp [hn])
      rw [ofItems, hm, hrest]
      cases hf : f m <;> simp [hf, bind, Except.bind, pure, Except.pure]

-- The strings of what the items became, and of the dictionaries among them.
theorem flatMap_strings_filterMap (items : List Match) (f : Match → Option Tree) :
    (items.filterMap f).flatMap strings = items.flatMap fun m => stringsOf (f m) := by
  induction items with
  | nil => rfl
  | cons m rest ih => cases hf : f m <;> simp [hf, ih, stringsOf]

theorem flatMap_strings_entries {items : List Match} {f : Match → Option Tree}
    (h : ∀ m ∈ items, Folds m (f m)) :
    (items.filterMap fun m => (f m).bind entries?).flatten.flatMap (·.2.strings) =
      items.flatMap fun m => if m.HoldsLive then stringsOf (f m) else [] := by
  induction items with
  | nil => rfl
  | cons m rest ih =>
      have hrest := ih fun n hn => h n (by simp [hn])
      have hm := h m (by simp)
      by_cases hlive : m.HoldsLive
      · obtain ⟨entries, hentries⟩ := hm.dict_iff.mpr hlive
        have hfirst : stringsOf (f m) = entries.flatMap (·.2.strings) := by
          simp [hentries, stringsOf]
        simp [hentries, entries?, hlive, ← hfirst, hrest]
      · have hnone := hm.entries?_eq_none_iff.mpr hlive
        simp [hnone, hlive, ← hrest]

theorem isVoid_list (items : List Tree) : (list items).isVoid = items.isEmpty := by
  cases items <;> rfl

theorem isVoid_dict (entries : List (String × Tree)) :
    (dict entries).isVoid = entries.isEmpty := by
  cases entries <;> rfl

theorem merge_solid {ts : List Tree} (hsolid : ts.filter (!·.isVoid) = ts)
    (hdicts : ts.filterMap entries? ≠ []) : merge (ts.filterMap entries?) ≠ [] := by
  obtain ⟨entries, rest, hfirst⟩ := List.exists_cons_of_ne_nil hdicts
  have hmem : entries ∈ ts.filterMap entries? := by simp [hfirst]
  obtain ⟨t, ht, hentries⟩ := List.mem_filterMap.mp hmem
  have hvoid : t.isVoid = false := by simpa using List.filter_eq_self.mp hsolid t ht
  cases t with
  | dict _ =>
      obtain rfl := Option.some.inj hentries
      refine merge_ne_nil fun hflat => ?_
      have hnil := List.flatten_eq_nil_iff.mp hflat _ hmem
      simp [isVoid_dict, hnil] at hvoid
  | _ => cases hentries

theorem gather_list {ts : List Tree} (hsolid : ts.filter (!·.isVoid) = ts) (hne : ts ≠ [])
    (hplain : ts.filterMap entries? = []) : gather ts = some (.list ts) := by
  simp [gather, hsolid, hne, hplain]

theorem gather_dict {ts : List Tree} (hsolid : ts.filter (!·.isVoid) = ts)
    (hdicts : ts.filterMap entries? ≠ []) :
    gather ts = some (.dict (merge (ts.filterMap entries?))) := by
  have hne : ts ≠ [] := by
    rintro rfl
    exact hdicts rfl
  simp [gather, hsolid, hne, hdicts]

-- Without a live node nothing is dropped.
theorem keptTexts_perm_of_dead {items : List Match} {f : Match → Option Tree}
    (h : ∀ m ∈ items, Folds m (f m)) (hdead : ¬(Match.seq items).HoldsLive) :
    (items.flatMap fun m => stringsOf (f m)).Perm (Match.seq items).keptTexts := by
  rw [Match.keptTexts_seq]
  refine List.Perm.flatMap_left items fun m hm => ?_
  rw [if_pos fun hlive => absurd hlive hdead]
  exact (h m hm).kept

-- With one, the items that hold none are.
theorem keptTexts_perm_of_live {items : List Match} {f : Match → Option Tree}
    (h : ∀ m ∈ items, Folds m (f m)) (hlive : (Match.seq items).HoldsLive) :
    (items.flatMap fun m => if m.HoldsLive then stringsOf (f m) else []).Perm
      (Match.seq items).keptTexts := by
  rw [Match.keptTexts_seq]
  refine List.Perm.flatMap_left items fun m hm => ?_
  by_cases hm' : m.HoldsLive
  · rw [if_pos hm', if_pos fun _ => hm']
    exact (h m hm).kept
  · rw [if_neg hm', if_neg fun himp => hm' (himp hlive)]

theorem whole_of_dead {items : List Match} {f : Match → Option Tree}
    (h : ∀ m ∈ items, Folds m (f m)) (hdead : ¬(Match.seq items).HoldsLive) :
    (items.flatMap fun m => stringsOf (f m)) = (Match.seq items).leaves := by
  rw [Match.leaves_seq]
  refine List.flatMap_congr fun m hm => (h m hm).whole fun hlive => ?_
  exact hdead (Match.holdsLive_seq.mpr ⟨m, hm, hlive⟩)

theorem Folds.seq {items : List Match} {f : Match → Option Tree}
    (h : ∀ m ∈ items, Folds m (f m)) : Folds (.seq items) (gather (items.filterMap f)) := by
  have hsolid : (items.filterMap f).filter (!·.isVoid) = items.filterMap f := by
    rw [List.filter_eq_self]
    intro t ht
    obtain ⟨m, hm, hmt⟩ := List.mem_filterMap.mp ht
    simp [(h m hm).solid t hmt]
  have hnil : items.filterMap f = [] ↔ (Match.seq items).leaves = [] := by
    rw [List.filterMap_eq_nil_iff, Match.leaves_seq, List.flatMap_eq_nil_iff]
    exact forall₂_congr fun m hm => (h m hm).none_iff
  have hplain : (items.filterMap f).filterMap entries? = [] ↔ ¬(Match.seq items).HoldsLive := by
    rw [List.filterMap_filterMap, List.filterMap_eq_nil_iff, Match.holdsLive_seq]
    simp only [not_exists, not_and]
    exact forall₂_congr fun m hm => (h m hm).entries?_eq_none_iff
  by_cases hlive : (Match.seq items).HoldsLive
  · have hdicts : (items.filterMap f).filterMap entries? ≠ [] := fun hd => hplain.mp hd hlive
    rw [gather_dict hsolid hdicts]
    exact {
      solid := by
        rintro t ⟨⟩
        simpa [isVoid_dict] using merge_solid hsolid hdicts
      none_iff := by simpa using hlive.leaves_ne_nil
      text_iff := by simp
      dict_iff := by simpa using hlive
      kept := by
        have hmerged := strings_merge_perm ((items.filterMap f).filterMap entries?)
        rw [List.filterMap_filterMap, flatMap_strings_entries h] at hmerged
        rw [List.filterMap_filterMap]
        exact hmerged.trans (keptTexts_perm_of_live h hlive)
      whole := fun hdead => absurd hlive hdead }
  · by_cases hempty : items.filterMap f = []
    · rw [hempty]
      have hleaves := hnil.mp hempty
      have hstrings := whole_of_dead h hlive
      exact {
        solid := by simp [gather]
        none_iff := by simpa [gather] using hleaves
        text_iff := by simp [gather]
        dict_iff := by simpa [gather] using hlive
        kept := by
          have hkept := keptTexts_perm_of_dead h hlive
          rwa [hstrings, hleaves] at hkept
        whole := fun _ => hleaves.symm }
    · rw [gather_list hsolid hempty (hplain.mpr hlive)]
      have hleaves := fun hl => hempty (hnil.mpr hl)
      have hstrings : stringsOf (some (.list (items.filterMap f))) =
          items.flatMap fun m => stringsOf (f m) := by
        rw [← flatMap_strings_filterMap]
        exact strings_list _
      exact {
        solid := by
          rintro t ⟨⟩
          simpa [isVoid_list] using hempty
        none_iff := by simpa using hleaves
        text_iff := by simp
        dict_iff := by simpa using hlive
        kept := hstrings ▸ keptTexts_perm_of_dead h hlive
        whole := fun _ => hstrings.trans (whole_of_dead h hlive) }

theorem folds_of_genuine {m : Match} (h : m.Genuine) :
    ∃ built, ofMatch m = .ok built ∧ Folds m built := by
  induction h with
  | empty => exact ⟨none, rfl, folds_empty⟩
  | leaf t => exact ⟨some (.text t), rfl, folds_leaf t⟩
  | @labeled name v _ ih =>
      obtain ⟨built, hbuilt, hfolds⟩ := ih
      exact ⟨underLabel name built, by rw [ofMatch, hbuilt]; rfl, hfolds.labeled name⟩
  | @seq items _ ih =>
      choose! f hf hfolds using ih
      exact ⟨gather (items.filterMap f), by rw [ofMatch, ofItems_eq_ok hf]; rfl, .seq hfolds⟩

-- The kind of a tree, and the strings in it.
theorem ofMatch_keeps {m : Match} (h : m.Genuine) :
    ∃ built, ofMatch m = .ok built ∧
      (built = none ↔ m.leaves = []) ∧
      (∀ t, built = some (.text t) ↔ m = .leaf t) ∧
      ((∃ entries, built = some (.dict entries)) ↔ m.HoldsLive) ∧
      ((∃ items, built = some (.list items)) ↔
        m.leaves ≠ [] ∧ (∀ t, m ≠ .leaf t) ∧ ¬m.HoldsLive) ∧
      (stringsOf built).Perm ((m.occurrences.filter (·.Kept)).map (·.text)) ∧
      (¬m.HoldsLive → stringsOf built = m.leaves) := by
  obtain ⟨built, hbuilt, hfolds⟩ := folds_of_genuine h
  refine ⟨built, hbuilt, hfolds.none_iff, hfolds.text_iff, hfolds.dict_iff, ?_, hfolds.kept,
    hfolds.whole⟩
  rw [ne_eq, ← hfolds.none_iff, ← hfolds.dict_iff]
  simp only [ne_eq, ← hfolds.text_iff]
  rcases built with _ | (t | items | entries) <;> simp

-- A key that comes at two depths, an empty string under it, a label over nothing, and two leaves
-- beside labels.
def tagged : Match :=
  .seq [.leaf ['a'], .labeled "K" (.leaf ['1']), .labeled "E" (.seq [.empty]),
    .seq [.leaf ['b'], .labeled "K" (.seq [.leaf [], .leaf ['2']])]]

theorem tagged_genuine : tagged.Genuine := by
  have hempty : (Match.seq [.empty]).Genuine :=
    .seq (List.forall_mem_singleton.mpr .empty)
  have hpair : (Match.seq [.leaf [], .leaf ['2']]).Genuine :=
    .seq (by simpa using ⟨Match.Genuine.leaf [], Match.Genuine.leaf ['2']⟩)
  have hinner : (Match.seq [.leaf ['b'], .labeled "K" (.seq [.leaf [], .leaf ['2']])]).Genuine :=
    .seq (by simpa using ⟨Match.Genuine.leaf ['b'], hpair.labeled⟩)
  refine .seq ?_
  simp only [List.forall_mem_cons]
  exact ⟨.leaf _, .labeled (.leaf _), .labeled hempty, hinner, by simp⟩

theorem ofMatch_keeps_tagged :
    tagged.Genuine ∧ tagged.HoldsLive ∧
      ofMatch tagged =
        .ok (some (.dict [("K", .list [.text ['1'], .list [.text [], .text ['2']]])])) ∧
      (stringsOf (some (.dict [("K", .list [.text ['1'], .list [.text [], .text ['2']]])]))).Perm
        [['1'], [], ['2']] := by
  obtain ⟨built, hbuilt, -, -, hdict, -, hstrings, -⟩ := ofMatch_keeps tagged_genuine
  have hfolded : ofMatch tagged =
      .ok (some (.dict [("K", .list [.text ['1'], .list [.text [], .text ['2']]])])) := rfl
  have hkept : (tagged.occurrences.filter (·.Kept)).map (·.text) = [['1'], [], ['2']] := by
    decide
  obtain rfl := Except.ok.inj (hbuilt.symm.trans hfolded)
  rw [hkept] at hstrings
  exact ⟨tagged_genuine, hdict.mp ⟨_, rfl⟩, hfolded, hstrings⟩

end Tree
end Descent
