import Descent.Proofs.Collecting
import Mathlib.Data.List.Induction

namespace Descent

namespace Tree

-- Keys in the order in which they come first.
def note (keys : List String) (key : String) : List String :=
  if key ∈ keys then keys else keys ++ [key]

def firsts (keys : List String) : List String :=
  keys.foldl note []

theorem mem_note {keys : List String} {key k : String} : k ∈ note keys key ↔ k ∈ keys ∨ k = key := by
  unfold note
  by_cases hkey : key ∈ keys
  · rw [if_pos hkey]
    constructor
    · exact .inl
    · rintro (hk | rfl)
      · exact hk
      · exact hkey
  · simp [hkey]

theorem mem_foldl_note {keys noted : List String} {k : String} :
    k ∈ keys.foldl note noted ↔ k ∈ noted ∨ k ∈ keys := by
  induction keys generalizing noted with
  | nil => simp
  | cons key rest ih => rw [List.foldl_cons, ih, mem_note, List.mem_cons, or_assoc]

-- Keys that are noted again change nothing.
theorem foldl_note_firsts (keys noted : List String) :
    (firsts keys).foldl note noted = keys.foldl note noted := by
  induction keys using List.reverseRecOn with
  | nil => rfl
  | append_singleton keys key ih =>
      have hsplit : firsts (keys ++ [key]) = note (firsts keys) key := by simp [firsts]
      rw [hsplit, List.foldl_append, List.foldl_cons, List.foldl_nil, ← ih]
      by_cases hkey : key ∈ firsts keys
      · have hnoted : key ∈ (firsts keys).foldl note noted := mem_foldl_note.mpr (.inr hkey)
        simp [note, hkey, hnoted]
      · have hlast : note (firsts keys) key = firsts keys ++ [key] := if_neg hkey
        rw [hlast, List.foldl_append, List.foldl_cons, List.foldl_nil]

theorem firsts_regroup (xs ys zs : List String) :
    firsts (xs ++ firsts ys ++ zs) = firsts (xs ++ ys ++ zs) := by
  unfold firsts
  rw [List.foldl_append, List.foldl_append, List.foldl_append, List.foldl_append]
  congr 1
  exact foldl_note_firsts ys _

theorem keys_file (key : String) (value : Tree) (filed : List (String × List Tree)) :
    (file key value filed).map (·.1) = note (filed.map (·.1)) key := by
  induction filed with
  | nil => rfl
  | cons e rest ih =>
      obtain ⟨k, values⟩ := e
      by_cases hk : k = key
      · simp [file, note, hk]
      · have hne : ¬key = k := fun h => hk h.symm
        by_cases hrest : key ∈ rest.map (·.1)
        · simp [file, hk, ih, note, hrest]
        · simp [file, hk, hne, ih, note, hrest]

theorem keys_foldl_file (entries : List (String × Tree)) (filed : List (String × List Tree)) :
    (entries.foldl (fun acc e => file e.1 e.2 acc) filed).map (·.1) =
      (entries.map (·.1)).foldl note (filed.map (·.1)) := by
  induction entries generalizing filed with
  | nil => rfl
  | cons e rest ih => rw [List.foldl_cons, ih, keys_file, List.map_cons, List.foldl_cons]

-- Each key comes once, in the place of its first entry, with all values of its entries.
theorem collate_eq_map (entries : List (String × Tree)) :
    collate entries = (firsts (entries.map (·.1))).map fun key =>
      (key, settle (valuesUnder key (.dict entries))) := by
  let filed := entries.foldl (fun acc e => file e.1 e.2 acc) []
  have hkeys : filed.map (·.1) = firsts (entries.map (·.1)) := keys_foldl_file entries []
  have hvalues : ∀ e ∈ filed, e.2 = valuesUnder e.1 (.dict entries) := by
    intro e he
    have hmem : e ∈ filed.filter (·.1 == e.1) := List.mem_filter.mpr ⟨he, by simp⟩
    rw [filter_filed, filedUnder] at hmem
    split at hmem
    · cases hmem
    · exact congrArg Prod.snd (List.mem_singleton.mp hmem)
  have hcollate : collate entries = filed.map fun e => (e.1, settle e.2) := by
    simp [collate, merge, filed]
  rw [hcollate, ← hkeys, List.map_map]
  exact List.map_congr_left fun e he => by simp [hvalues e he]

theorem keys_collate (entries : List (String × Tree)) :
    (collate entries).map (·.1) = firsts (entries.map (·.1)) := by
  rw [collate_eq_map, List.map_map]
  exact List.map_id' _

theorem valuesUnder_eq_nil_iff {key : String} {entries : List (String × Tree)} :
    valuesUnder key (.dict entries) = [] ↔ key ∉ entries.map (·.1) := by
  simp only [valuesUnder, List.map_eq_nil_iff, List.filter_eq_nil_iff, beq_iff_eq, List.mem_map,
    not_exists, not_and]

theorem settle_of_two {values : List Tree} (h : 2 ≤ values.length) :
    settle values = .list values := by
  match values with
  | [] => simp at h
  | [_] => simp at h
  | _ :: _ :: _ => rfl

-- Values that were collected before are told from the values one by one, unless there is but one of
-- them, or nothing beside them.
theorem settle_regroup (xs ys zs : List Tree) :
    settle (xs ++ collect ys ++ zs) = settle (xs ++ ys ++ zs) ↔
      ys.length ≤ 1 ∨ xs ++ zs = [] := by
  match ys with
  | [] => simp
  | [y] => simp
  | y :: y' :: rest =>
      by_cases halone : xs ++ zs = []
      · obtain ⟨rfl, rfl⟩ := List.append_eq_nil_iff.mp halone
        simp [collect, settle]
      · have hbeside : 0 < (xs ++ zs).length := List.length_pos_iff.mpr halone
        rw [List.length_append] at hbeside
        have hgrouped : 2 ≤ (xs ++ collect (y :: y' :: rest) ++ zs).length := by
          simp [collect]
          omega
        have hflat : 2 ≤ (xs ++ y :: y' :: rest ++ zs).length := by
          simp
          omega
        have hlength : (xs ++ collect (y :: y' :: rest) ++ zs).length ≠
            (xs ++ y :: y' :: rest ++ zs).length := by
          simp [collect]
          omega
        rw [settle_of_two hgrouped, settle_of_two hflat, Tree.list.injEq]
        constructor
        · intro hsame
          exact absurd (congrArg List.length hsame) hlength
        · rintro (hshort | hnone)
          · simp at hshort
          · exact absurd hnone halone

-- Entries that were collated before leave their mark at the keys that repeat among them and are in
-- use beside them, and nowhere else.
theorem collate_regroup (xs ys zs : List (String × Tree)) :
    collate (xs ++ collate ys ++ zs) = collate (xs ++ ys ++ zs) ↔
      ∀ key, (valuesUnder key (.dict ys)).length ≤ 1 ∨ valuesUnder key (.dict (xs ++ zs)) = [] := by
  have hkeys : firsts ((xs ++ collate ys ++ zs).map (·.1)) = firsts ((xs ++ ys ++ zs).map (·.1)) := by
    simp only [List.map_append, keys_collate]
    exact firsts_regroup _ _ _
  rw [collate_eq_map, collate_eq_map (xs ++ ys ++ zs), hkeys, List.map_inj_left]
  simp only [valuesUnder_append, valuesUnder_collate, Prod.mk.injEq, true_and, settle_regroup]
  constructor
  · intro h key
    by_cases hmem : key ∈ firsts ((xs ++ ys ++ zs).map (·.1))
    · exact h key hmem
    · have hys : key ∉ ys.map (·.1) := fun hin =>
        hmem (mem_foldl_note.mpr (.inr (by simp only [List.map_append, List.mem_append, hin]; simp)))
      simp [valuesUnder_eq_nil_iff.mpr hys]
  · intro h key _
    exact h key

end Tree

namespace Match

def keys (m : Match) : List String :=
  m.entries.map (·.1)

variable {key : String} {m : Match} {ms : List Match}

-- In a dictionary a key stands for one value.
theorem length_valuesUnder_le_one (h : m.Genuine) : (m.valuesUnder key).length ≤ 1 := by
  cases h with
  | empty => simp
  | leaf t => simp
  | @labeled name v hv =>
      obtain ⟨built, hbuilt, hfolds⟩ := Tree.folds_of_genuine hv
      cases built with
      | none => simp [valuesUnder_labeled_none hbuilt]
      | some t =>
          rw [valuesUnder_labeled hbuilt (hfolds.solid t rfl)]
          split <;> simp
  | @seq items hitems =>
      rw [valuesUnder_seq hitems]
      cases items.flatMap (valuesUnder key) <;> simp [Tree.collect]

theorem built_of_holdsLive (h : m.Genuine) (hlive : m.HoldsLive) :
    Tree.ofMatch m = .ok (some (.dict m.entries)) := by
  obtain ⟨built, hbuilt, hfolds⟩ := Tree.folds_of_genuine h
  obtain ⟨entries, rfl⟩ := hfolds.dict_iff.mpr hlive
  rw [hbuilt, entries_of_built hbuilt]
  simp [Tree.entries]

theorem mem_keys_iff : key ∈ m.keys ↔ m.valuesUnder key ≠ [] := by
  rw [valuesUnder_entries, ne_eq, Tree.valuesUnder_eq_nil_iff, not_not]
  rfl

theorem valuesUnder_flatMap_eq_nil_iff :
    Tree.valuesUnder key (.dict (ms.flatMap entries)) = [] ↔ ¬∃ m ∈ ms, key ∈ m.keys := by
  rw [valuesUnder_flatMap, List.flatMap_eq_nil_iff]
  simp [mem_keys_iff]

-- What is live in a group is live in the sequence around it.
theorem holdsLive_regroup {xs ys zs : List Match} :
    (seq (xs ++ [.seq ys] ++ zs)).HoldsLive ↔ (seq (xs ++ ys ++ zs)).HoldsLive := by
  simp only [holdsLive_seq, List.mem_append, List.mem_singleton, or_and_right, exists_or,
    exists_eq_left]

-- A key has two values in a list of matches if two of them hold it.
theorem two_le_length_valuesUnder_iff (key : String) (h : ∀ m ∈ ms, m.Genuine) :
    2 ≤ (Tree.valuesUnder key (.dict (ms.flatMap entries))).length ↔
      ∃ m n, [m, n].Sublist ms ∧ key ∈ m.keys ∧ key ∈ n.keys := by
  induction ms with
  | nil => simp [Tree.valuesUnder]
  | cons first rest ih =>
      have hrest := ih fun n hn => h n (List.mem_cons_of_mem first hn)
      have hone : (first.valuesUnder key).length ≤ 1 :=
        length_valuesUnder_le_one (h first List.mem_cons_self)
      have hsome : key ∈ first.keys ↔ 0 < (first.valuesUnder key).length := by
        rw [mem_keys_iff, List.length_pos_iff]
      have hothers : (∃ m ∈ rest, key ∈ m.keys) ↔
          0 < (Tree.valuesUnder key (.dict (rest.flatMap entries))).length := by
        rw [List.length_pos_iff, ne_eq, valuesUnder_flatMap_eq_nil_iff, not_not]
      rw [List.flatMap_cons, Tree.valuesUnder_append, ← valuesUnder_entries, List.length_append]
      constructor
      · intro htwo
        by_cases hfirst : key ∈ first.keys
        · obtain ⟨n, hn, hkey⟩ := hothers.mpr (by omega)
          exact ⟨first, n, (List.singleton_sublist.mpr hn).cons_cons first, hfirst, hkey⟩
        · have hnone : ¬0 < (first.valuesUnder key).length := fun hpos => hfirst (hsome.mpr hpos)
          obtain ⟨m, n, hsub, hm, hn⟩ := hrest.mp (by omega)
          exact ⟨m, n, hsub.cons first, hm, hn⟩
      · rintro ⟨m, n, hsub, hm, hn⟩
        rcases List.cons_sublist_cons'.mp hsub with hbehind | ⟨hfirst, hbehind⟩
        · have htwo := hrest.mpr ⟨m, n, hbehind, hm, hn⟩
          omega
        · have hfirstpos := hsome.mp (hfirst ▸ hm)
          have hrestpos := hothers.mp ⟨n, List.singleton_sublist.mp hbehind, hn⟩
          omega

end Match

namespace Tree

variable {xs ys zs : List Match}

-- Items of a sequence in a sequence of their own leave the tree as it is, down to the order of its
-- keys, as long as no key repeats among them that is in use beside them.
theorem ofMatch_regroup (h : ∀ m ∈ xs ++ ys ++ zs, m.Genuine)
    (hdict : ∃ m ∈ xs ++ ys ++ zs, ∃ entries, ofMatch m = .ok (some (.dict entries))) :
    ∃ grouped flat, ofMatch (.seq (xs ++ [.seq ys] ++ zs)) = .ok (some grouped) ∧
      ofMatch (.seq (xs ++ ys ++ zs)) = .ok (some flat) ∧
      (grouped = flat ↔ ∀ key, ¬((∃ m n, [m, n].Sublist ys ∧ key ∈ m.keys ∧ key ∈ n.keys) ∧
        ∃ m ∈ xs ++ zs, key ∈ m.keys)) := by
  have hinside : ∀ m ∈ ys, m.Genuine := fun m hm => h m (by simp [hm])
  have hnested : ∀ m ∈ xs ++ [.seq ys] ++ zs, m.Genuine := by
    simp only [List.forall_mem_append, List.forall_mem_singleton] at h ⊢
    exact ⟨⟨h.1.1, .seq h.1.2⟩, h.2⟩
  have hlive : (Match.seq (xs ++ ys ++ zs)).HoldsLive := by
    obtain ⟨m, hm, entries, hentries⟩ := hdict
    obtain ⟨built, hbuilt, hfolds⟩ := folds_of_genuine (h m hm)
    have hbuilt' : built = some (.dict entries) := Except.ok.inj (hbuilt.symm.trans hentries)
    exact Match.holdsLive_seq.mpr ⟨m, hm, hfolds.dict_iff.mp ⟨entries, hbuilt'⟩⟩
  have hgrouped := Match.built_of_holdsLive (.seq hnested) (Match.holdsLive_regroup.mpr hlive)
  refine ⟨_, _, hgrouped, Match.built_of_holdsLive (.seq h) hlive, ?_⟩
  rw [Tree.dict.injEq, Match.entries_seq hnested, Match.entries_seq h]
  simp only [List.flatMap_append, List.flatMap_cons, List.flatMap_nil, List.append_nil,
    Match.entries_seq hinside]
  rw [collate_regroup]
  refine forall_congr' fun key => ?_
  have htwo := Match.two_le_length_valuesUnder_iff key hinside
  rw [← List.flatMap_append, Match.valuesUnder_flatMap_eq_nil_iff, not_and_or, ← htwo, Nat.not_le,
    Nat.lt_succ_iff]

-- A key that stands in front of a group and twice in it, beside a leaf.
def front : List Match :=
  [.labeled "K" (.leaf ['a'])]

def group : List Match :=
  [.labeled "K" (.leaf ['b']), .leaf ['x'], .labeled "K" (.leaf ['c'])]

theorem ofMatch_regroup_group :
    (∀ m ∈ front ++ group ++ [], m.Genuine) ∧
      (∃ m ∈ front ++ group ++ [], ∃ entries, ofMatch m = .ok (some (.dict entries))) ∧
      ofMatch (.seq (front ++ [.seq group] ++ [])) =
        .ok (some (.dict [("K", .list [.text ['a'], .list [.text ['b'], .text ['c']]])])) ∧
      ofMatch (.seq (front ++ group ++ [])) =
        .ok (some (.dict [("K", .list [.text ['a'], .text ['b'], .text ['c']])])) ∧
      ∃ key, (∃ m n, [m, n].Sublist group ∧ key ∈ m.keys ∧ key ∈ n.keys) ∧
        ∃ m ∈ front ++ [], key ∈ m.keys := by
  have hgenuine : ∀ m ∈ front ++ group ++ [], m.Genuine := by simp [front, group]
  have hdict : ∃ m ∈ front ++ group ++ [], ∃ entries, ofMatch m = .ok (some (.dict entries)) :=
    ⟨.labeled "K" (.leaf ['a']), by simp [front], [("K", .text ['a'])], rfl⟩
  have hnested : ofMatch (.seq (front ++ [.seq group] ++ [])) =
      .ok (some (.dict [("K", .list [.text ['a'], .list [.text ['b'], .text ['c']]])])) := rfl
  have hflat : ofMatch (.seq (front ++ group ++ [])) =
      .ok (some (.dict [("K", .list [.text ['a'], .text ['b'], .text ['c']])])) := rfl
  refine ⟨hgenuine, hdict, hnested, hflat, ?_⟩
  obtain ⟨grouped, flat, hgrouped, hflat', hiff⟩ := ofMatch_regroup hgenuine hdict
  obtain rfl := Option.some.inj (Except.ok.inj (hnested.symm.trans hgrouped))
  obtain rfl := Option.some.inj (Except.ok.inj (hflat.symm.trans hflat'))
  have hfails := mt hiff.mpr (by simp)
  simpa only [not_forall, not_not] using hfails

end Tree

end Descent
