import Descent.Proofs.Regrouping

namespace Descent

namespace Tree

variable {key k : String} {keys : List String}

theorem firsts_concat (keys : List String) (key : String) :
    firsts (keys ++ [key]) = note (firsts keys) key := by
  simp [firsts]

theorem mem_firsts : key ∈ firsts keys ↔ key ∈ keys := by
  simp [firsts, mem_foldl_note]

theorem nodup_firsts (keys : List String) : (firsts keys).Nodup := by
  induction keys using List.reverseRecOn with
  | nil => exact List.nodup_nil
  | append_singleton keys key ih =>
      rw [firsts_concat, note]
      by_cases hkey : key ∈ firsts keys
      · rwa [if_pos hkey]
      · rw [if_neg hkey]
        simpa [List.nodup_append] using ⟨ih, fun k hk h => hkey (h ▸ hk)⟩

-- Keys in the order of their first occurrence, each of them once.
theorem firsts_eq_eraseDups (keys : List String) : firsts keys = keys.eraseDups := by
  induction keys using List.reverseRecOn with
  | nil => rfl
  | append_singleton keys key ih =>
      rw [firsts_concat, ih, List.eraseDups_append, note]
      by_cases hkey : key ∈ keys
      · simp [hkey, List.removeAll]
      · simp [hkey, List.removeAll, List.eraseDups_cons]

section Dictionaries

variable {α : Type} {value : α} {f : String → α} {entries : List (String × α)}

-- Sets the value of a key, which comes last if it is new.
def put (key : String) (value : α) : List (String × α) → List (String × α)
  | [] => [(key, value)]
  | (k, held) :: rest =>
      if k = key then (k, value) :: rest else (k, held) :: put key value rest

-- The dictionary of some keys, whose values a function tells.
def table (keys : List String) (f : String → α) : List (String × α) :=
  keys.map fun k => (k, f k)

theorem table_congr {g : String → α} (h : ∀ k ∈ keys, f k = g k) : table keys f = table keys g := by
  refine List.map_congr_left fun k hk => ?_
  rw [h k hk]

theorem put_table (h : keys.Nodup) :
    put key value (table keys f) = table (note keys key) (Function.update f key value) := by
  induction keys with
  | nil => simp [put, table, note]
  | cons k rest ih =>
      obtain ⟨hk, hrest⟩ := List.nodup_cons.mp h
      by_cases hsame : k = key
      · subst k
        have hothers : table rest f = table rest (Function.update f key value) :=
          table_congr fun k' hk' => by
            have hne : k' ≠ key := fun h => hk (h ▸ hk')
            rw [Function.update_of_ne hne]
        simp only [table] at hothers
        simp [put, table, note, hothers]
      · have hne : ¬key = k := fun h => hsame h.symm
        have hrest' := ih hrest
        unfold note at hrest' ⊢
        by_cases hin : key ∈ rest
        · simpa [put, table, hsame, hin] using hrest'
        · simpa [put, table, hsame, hne, hin] using hrest'

theorem lookup_table : (table keys f).lookup key = if key ∈ keys then some (f key) else none := by
  induction keys with
  | nil => rfl
  | cons k rest ih =>
      rw [table, List.map_cons, List.lookup_cons, ← table, ih]
      by_cases hk : key = k
      · simp [hk]
      · simp [hk, beq_false_of_ne hk]

theorem lookup_put (entries : List (String × α)) :
    (put key value entries).lookup k = if k = key then some value else entries.lookup k := by
  induction entries with
  | nil => by_cases hk : k = key <;> simp [put, List.lookup_cons, hk, beq_false_of_ne]
  | cons e rest ih =>
      obtain ⟨k', held⟩ := e
      by_cases hsame : k' = key
      · subst k'
        by_cases hk : k = key <;> simp [put, List.lookup_cons, hk, beq_false_of_ne]
      · by_cases hk : k = k'
        · simp [put, hsame, hk]
        · simp [put, List.lookup_cons, hsame, beq_false_of_ne hk, ih]

end Dictionaries

-- What the dictionary of results holds under a key: a value of its own, or the list of the values of a key
-- that came again, which the dictionary of those lists holds too.
inductive Slot where
  | own (value : Tree)
  | shared

def Slot.read (key : String) (repeated : List (String × List Tree)) : Slot → Tree
  | .own value => value
  | .shared => .list ((repeated.lookup key).getD [])

structure Merging where
  merged : List (String × Slot)
  repeated : List (String × List Tree)

namespace Merging

-- What is appended to the list of a repeated key needs no second entry: both dictionaries hold that list.
def add (s : Merging) (e : String × Tree) : Merging :=
  match s.repeated.lookup e.1, s.merged.lookup e.1 with
  | some values, _ => { s with repeated := put e.1 (values ++ [e.2]) s.repeated }
  | none, some slot =>
      { merged := put e.1 .shared s.merged
        repeated := put e.1 [slot.read e.1 s.repeated, e.2] s.repeated }
  | none, none => { s with merged := put e.1 (.own e.2) s.merged }

def result (s : Merging) : List (String × Tree) :=
  s.merged.map fun (key, slot) => (key, slot.read key s.repeated)

end Merging

def mergeInPlace (dicts : List (List (String × Tree))) : List (String × Tree) :=
  (dicts.flatten.foldl Merging.add ⟨[], []⟩).result

namespace Merging

def slotOf : List Tree → Slot
  | [value] => .own value
  | _ => .shared

-- Where the entries so far have been added: a value alone is held as it is, the values of a key that came
-- again are in the shared list.
structure Holds (s : Merging) (entries : List (String × Tree)) : Prop where
  merged : s.merged =
    table (firsts (entries.map (·.1))) fun key => slotOf (valuesUnder key (.dict entries))
  repeated : ∀ key, s.repeated.lookup key =
    if 2 ≤ (valuesUnder key (.dict entries)).length then some (valuesUnder key (.dict entries)) else none

theorem holds_nil : Holds ⟨[], []⟩ [] where
  merged := rfl
  repeated _ := rfl

variable {s : Merging} {entries : List (String × Tree)} {e : String × Tree}

theorem valuesUnder_concat_same :
    valuesUnder e.1 (.dict (entries ++ [e])) = valuesUnder e.1 (.dict entries) ++ [e.2] := by
  simp [valuesUnder]

theorem valuesUnder_concat_other (hk : k ≠ e.1) :
    valuesUnder k (.dict (entries ++ [e])) = valuesUnder k (.dict entries) := by
  simp [valuesUnder, hk.symm]

theorem slotOf_concat :
    (fun k => slotOf (valuesUnder k (.dict (entries ++ [e])))) =
      Function.update (fun k => slotOf (valuesUnder k (.dict entries))) e.1
        (slotOf (valuesUnder e.1 (.dict entries) ++ [e.2])) := by
  funext k
  by_cases hk : k = e.1
  · subst hk
    rw [valuesUnder_concat_same, Function.update_self]
  · rw [valuesUnder_concat_other hk, Function.update_of_ne hk]

theorem Holds.lookup_merged (h : s.Holds entries) (key : String) : s.merged.lookup key =
    if valuesUnder key (.dict entries) = [] then none
    else some (slotOf (valuesUnder key (.dict entries))) := by
  rw [h.merged, lookup_table]
  by_cases hkey : key ∈ entries.map (·.1)
  · rw [if_pos (mem_firsts.mpr hkey), if_neg (mt valuesUnder_eq_nil_iff.mp (not_not.mpr hkey))]
  · rw [if_neg (mt mem_firsts.mp hkey), if_pos (valuesUnder_eq_nil_iff.mpr hkey)]

-- The new entry goes into the slot of its key, the slots of other keys stay.
theorem Holds.put_merged (h : s.Holds entries) :
    put e.1 (slotOf (valuesUnder e.1 (.dict entries) ++ [e.2])) s.merged =
      table (firsts ((entries ++ [e]).map (·.1))) fun key =>
        slotOf (valuesUnder key (.dict (entries ++ [e]))) := by
  rw [h.merged, put_table (nodup_firsts _), slotOf_concat, List.map_append, List.map_singleton,
    firsts_concat]

-- Once a key has come twice, its slot stays as it is: the list grows behind it.
theorem Holds.merged_concat (h : s.Holds entries)
    (htwo : 2 ≤ (valuesUnder e.1 (.dict entries)).length) :
    s.merged = table (firsts ((entries ++ [e]).map (·.1))) fun key =>
      slotOf (valuesUnder key (.dict (entries ++ [e]))) := by
  have hin : e.1 ∈ firsts (entries.map (·.1)) := by
    rw [mem_firsts]
    by_contra hkey
    rw [valuesUnder_eq_nil_iff.mpr hkey] at htwo
    simp at htwo
  have hslot : slotOf (valuesUnder e.1 (.dict entries) ++ [e.2]) =
      slotOf (valuesUnder e.1 (.dict entries)) := by
    match hvalues : valuesUnder e.1 (.dict entries) with
    | [] => simp [hvalues] at htwo
    | [_] => simp [hvalues] at htwo
    | _ :: _ :: _ => rfl
  rw [h.merged, slotOf_concat, hslot, Function.update_eq_self, List.map_append, List.map_singleton,
    firsts_concat, note, if_pos hin]

theorem Holds.repeated_concat (h : s.Holds entries) {repeated : List (String × List Tree)}
    (hsame : repeated.lookup e.1 =
      if 2 ≤ (valuesUnder e.1 (.dict entries) ++ [e.2]).length
      then some (valuesUnder e.1 (.dict entries) ++ [e.2]) else none)
    (hother : ∀ k, k ≠ e.1 → repeated.lookup k = s.repeated.lookup k) (key : String) :
    repeated.lookup key =
      if 2 ≤ (valuesUnder key (.dict (entries ++ [e]))).length
      then some (valuesUnder key (.dict (entries ++ [e]))) else none := by
  by_cases hkey : key = e.1
  · subst hkey
    rw [hsame, valuesUnder_concat_same]
  · rw [hother key hkey, h.repeated, valuesUnder_concat_other hkey]

theorem Holds.add (h : s.Holds entries) : (s.add e).Holds (entries ++ [e]) := by
  have hrepeated := h.repeated e.1
  have hmerged := h.lookup_merged e.1
  have hput := h.put_merged (e := e)
  -- How often the key came before decides which of the two dictionaries changes.
  match hvalues : valuesUnder e.1 (.dict entries) with
  | [] =>
      have hadd : s.add e = { s with merged := put e.1 (.own e.2) s.merged } := by
        simp [Merging.add, hrepeated, hmerged, hvalues]
      rw [hadd]
      rw [hvalues] at hput
      exact ⟨hput, h.repeated_concat (by simp [hrepeated, hvalues]) fun k _ => rfl⟩
  | [first] =>
      have hadd : s.add e =
          ⟨put e.1 .shared s.merged, put e.1 [first, e.2] s.repeated⟩ := by
        simp [Merging.add, hrepeated, hmerged, hvalues, slotOf, Slot.read]
      rw [hadd]
      rw [hvalues] at hput
      exact ⟨hput, h.repeated_concat (by simp [lookup_put, hvalues]) fun k hk => by
        simp [lookup_put, hk]⟩
  | first :: second :: rest =>
      have htwo : 2 ≤ (valuesUnder e.1 (.dict entries)).length := by simp [hvalues]
      have hadd : s.add e =
          { s with repeated := put e.1 (valuesUnder e.1 (.dict entries) ++ [e.2]) s.repeated } := by
        simp [Merging.add, hrepeated, hvalues]
      rw [hadd]
      exact ⟨h.merged_concat htwo, h.repeated_concat (by simp [lookup_put, hvalues]) fun k hk => by
        simp [lookup_put, hk]⟩

theorem holds_foldl (entries : List (String × Tree)) :
    (entries.foldl Merging.add ⟨[], []⟩).Holds entries := by
  induction entries using List.reverseRecOn with
  | nil => exact holds_nil
  | append_singleton entries e ih =>
      rw [List.foldl_append, List.foldl_cons, List.foldl_nil]
      exact ih.add

theorem Holds.result (h : s.Holds entries) : s.result = collate entries := by
  rw [collate_eq_map, Merging.result, h.merged, table, List.map_map]
  refine List.map_congr_left fun key hkey => ?_
  have hsome := mt valuesUnder_eq_nil_iff.mp (not_not.mpr (mem_firsts.mp hkey))
  have hrepeated := h.repeated key
  match hvalues : valuesUnder key (.dict entries) with
  | [] => exact absurd hvalues hsome
  | [_] => simp [hvalues, slotOf, Slot.read, settle]
  | _ :: _ :: _ => simp [hvalues, hrepeated, slotOf, Slot.read, settle]

end Merging

-- Sharing the lists of repeated keys is one way to merge.
theorem mergeInPlace_eq_merge (dicts : List (List (String × Tree))) :
    mergeInPlace dicts = merge dicts := by
  rw [merge_eq_collate, mergeInPlace]
  exact (Merging.holds_foldl dicts.flatten).result

-- One tree stands in another at some depth, or is it.
inductive Inside (s : Tree) : Tree → Prop
  | refl : Inside s s
  | item {t : Tree} {items : List Tree} : t ∈ items → Inside s t → Inside s (.list items)
  | entry {e : String × Tree} {entries : List (String × Tree)} :
      e ∈ entries → Inside s e.2 → Inside s (.dict entries)

-- Neither an empty list nor an empty dictionary stands anywhere.
def Solid (t : Tree) : Prop :=
  ∀ s : Tree, s.Inside t → s.isVoid = false

-- No dictionary stands anywhere.
def Keyless (t : Tree) : Prop :=
  ∀ s : Tree, s.Inside t → ∀ entries, s ≠ .dict entries

structure Normal (t : Tree) : Prop where
  solid : t.Solid
  keyless : (∃ items, t = .list items) → t.Keyless

variable {items : List Tree} {entries : List (String × Tree)}

theorem solid_text (t : Text) : (text t).Solid := by
  rintro s ⟨⟩
  rfl

theorem solid_list : (list items).Solid ↔ items ≠ [] ∧ ∀ t ∈ items, t.Solid := by
  constructor
  · intro h
    have hroot : (list items).isVoid = false := h _ .refl
    rw [isVoid_list, List.isEmpty_eq_false_iff] at hroot
    exact ⟨hroot, fun t ht s hs => h s (.item ht hs)⟩
  · rintro ⟨hne, hitems⟩ s hs
    cases hs with
    | refl => rwa [isVoid_list, List.isEmpty_eq_false_iff]
    | item ht hs => exact hitems _ ht s hs

theorem solid_dict : (dict entries).Solid ↔ entries ≠ [] ∧ ∀ e ∈ entries, e.2.Solid := by
  constructor
  · intro h
    have hroot : (dict entries).isVoid = false := h _ .refl
    rw [isVoid_dict, List.isEmpty_eq_false_iff] at hroot
    exact ⟨hroot, fun e he s hs => h s (.entry he hs)⟩
  · rintro ⟨hne, hentries⟩ s hs
    cases hs with
    | refl => rwa [isVoid_dict, List.isEmpty_eq_false_iff]
    | entry he hs => exact hentries _ he s hs

theorem keyless_text (t : Text) : (text t).Keyless := by
  rintro s ⟨⟩ entries
  simp

theorem keyless_list (h : ∀ t ∈ items, t.Keyless) : (list items).Keyless := by
  intro s hs entries
  cases hs with
  | refl => simp
  | item ht hs => exact h _ ht s hs entries

-- A value alone stays as it is, several ones make a list.
theorem settle_cases {values : List Tree} (hne : values ≠ []) :
    values = [settle values] ∨ 2 ≤ values.length ∧ settle values = .list values := by
  match values with
  | [] => exact absurd rfl hne
  | [_] => exact .inl rfl
  | _ :: _ :: _ => exact .inr ⟨by simp, rfl⟩

theorem solid_settle {values : List Tree} (hne : values ≠ []) (h : ∀ t ∈ values, t.Solid) :
    (settle values).Solid := by
  match values with
  | [] => exact absurd rfl hne
  | [value] => exact h value (by simp)
  | _ :: _ :: _ => exact solid_list.mpr ⟨hne, h⟩

-- Every value of a merged dictionary comes from entries of the dictionaries that are merged.
theorem solid_merge {dicts : List (List (String × Tree))} (hne : merge dicts ≠ [])
    (h : ∀ e ∈ dicts.flatten, e.2.Solid) : (dict (merge dicts)).Solid := by
  refine solid_dict.mpr ⟨hne, fun e he => ?_⟩
  rw [merge_eq_collate, collate_eq_map] at he
  obtain ⟨key, hkey, rfl⟩ := List.mem_map.mp he
  refine solid_settle (mt valuesUnder_eq_nil_iff.mp (not_not.mpr (mem_firsts.mp hkey))) ?_
  intro t ht
  obtain ⟨e, he, rfl⟩ := List.mem_map.mp ht
  exact h e (List.mem_filter.mp he).1

theorem filter_normal (h : ∀ t ∈ items, t.Normal) : items.filter (!·.isVoid) = items := by
  rw [List.filter_eq_self]
  intro t ht
  simpa using (h t ht).solid t .refl

-- Where items in normal form are gathered into a dictionary, it is that of merging them in place.
theorem mergeInPlace_of_gather (h : ∀ t ∈ items, t.Normal) (ht : gather items = some (.dict entries)) :
    mergeInPlace (items.filterMap entries?) = entries := by
  have hsolid := filter_normal h
  by_cases hnone : items = []
  · subst hnone
    cases ht
  by_cases hplain : items.filterMap entries? = []
  · rw [gather_list hsolid hnone hplain] at ht
    cases ht
  · rw [gather_dict hsolid hplain] at ht
    rw [mergeInPlace_eq_merge]
    exact Tree.dict.inj (Option.some.inj ht)

-- What items in normal form are gathered into: a list only where none of them is a dictionary.
theorem normal_gather {t : Tree} (h : ∀ t ∈ items, t.Normal) (ht : gather items = some t) :
    t.Normal := by
  have hsolid := filter_normal h
  by_cases hnone : items = []
  · subst hnone
    cases ht
  by_cases hplain : items.filterMap entries? = []
  · rw [gather_list hsolid hnone hplain] at ht
    obtain rfl := Option.some.inj ht
    -- What is no dictionary is a text, or a list and keyless already.
    refine ⟨solid_list.mpr ⟨hnone, fun t ht => (h t ht).solid⟩, fun _ => keyless_list fun t ht => ?_⟩
    have hentries : entries? t = none := List.filterMap_eq_nil_iff.mp hplain t ht
    cases t with
    | text t => exact keyless_text t
    | list inner => exact (h _ ht).keyless ⟨inner, rfl⟩
    | dict entries => cases hentries
  · rw [gather_dict hsolid hplain] at ht
    obtain rfl := Option.some.inj ht
    have hvalues : ∀ e ∈ (items.filterMap entries?).flatten, e.2.Solid := by
      intro e he
      rw [flatten_entries] at he
      obtain ⟨t, ht, he⟩ := List.mem_flatMap.mp he
      cases t with
      | dict entries => exact (solid_dict.mp (h _ ht).solid).2 e he
      | _ => cases he
    refine ⟨solid_merge (merge_solid hsolid hplain) hvalues, ?_⟩
    rintro ⟨inner, hinner⟩
    cases hinner

theorem normal_ofItems {ms : List Match}
    (h : ∀ m ∈ ms, ∃ built, ofMatch m = .ok built ∧ ∀ t, built = some t → t.Normal) :
    ∃ trees, ofItems ms = .ok trees ∧ ∀ t ∈ trees, t.Normal := by
  choose! f hf hnormal using h
  refine ⟨ms.filterMap f, ofItems_eq_ok hf, fun t ht => ?_⟩
  obtain ⟨m, hm, ht⟩ := List.mem_filterMap.mp ht
  exact hnormal m hm t ht

theorem normal_ofMatch {m : Match} (h : m.Genuine) :
    ∃ built, ofMatch m = .ok built ∧ ∀ t, built = some t → t.Normal := by
  induction h with
  | empty => exact ⟨none, rfl, by simp⟩
  | leaf t =>
      refine ⟨some (.text t), rfl, ?_⟩
      rintro _ ⟨⟩
      exact ⟨solid_text t, by simp⟩
  | @labeled name v _ ih =>
      obtain ⟨built, hbuilt, hnormal⟩ := ih
      refine ⟨underLabel name built, by rw [ofMatch, hbuilt]; rfl, fun t ht => ?_⟩
      cases built with
      | none => cases ht
      | some value =>
          have hvalue : value.Solid := (hnormal value rfl).solid
          simp only [underLabel, hvalue value .refl] at ht
          obtain rfl := Option.some.inj ht
          exact ⟨solid_dict.mpr (by simpa using hvalue), by simp⟩
  | @seq items _ ih =>
      obtain ⟨trees, htrees, hnormal⟩ := normal_ofItems ih
      exact ⟨gather trees, by rw [ofMatch, htrees]; rfl, fun t ht => normal_gather hnormal ht⟩

-- A sequence with dictionaries among its items: they are merged in place, with the list of a repeated key
-- held by both dictionaries of the merge, and hold what they should key by key. And the normal form of all
-- trees.
theorem ofMatch_merges :
    (∀ items : List Match, (∀ m ∈ items, m.Genuine) →
      (∃ m ∈ items, ∃ entries, ofMatch m = .ok (some (.dict entries))) →
      ∃ trees entries, ofItems items = .ok trees ∧
        ofMatch (.seq items) = .ok (some (.dict entries)) ∧
        mergeInPlace (trees.filterMap entries?) = entries ∧
        entries.map (·.1) = (items.flatMap Match.keys).eraseDups ∧
        ∀ key value, (key, value) ∈ entries →
          items.flatMap (Match.valuesUnder key) = [value] ∨
          2 ≤ (items.flatMap (Match.valuesUnder key)).length ∧
            value = .list (items.flatMap (Match.valuesUnder key))) ∧
    ∀ m : Match, m.Genuine → ∃ built, ofMatch m = .ok built ∧ ∀ t, built = some t →
      (∀ s : Tree, s.Inside t → s ≠ .list [] ∧ s ≠ .dict []) ∧
      ((∃ items, t = .list items) → ∀ s : Tree, s.Inside t → ∀ entries, s ≠ .dict entries) := by
  refine ⟨fun items hitems hdict => ?_, fun m hm => ?_⟩
  · have hlive : (Match.seq items).HoldsLive := by
      obtain ⟨m, hm, entries, hentries⟩ := hdict
      obtain ⟨built, hbuilt, hfolds⟩ := folds_of_genuine (hitems m hm)
      have hsame : built = some (.dict entries) := Except.ok.inj (hbuilt.symm.trans hentries)
      exact Match.holdsLive_seq.mpr ⟨m, hm, hfolds.dict_iff.mp ⟨entries, hsame⟩⟩
    have hbuilt := Match.built_of_holdsLive (.seq hitems) hlive
    obtain ⟨trees, htrees, hnormal⟩ := normal_ofItems fun m hm => normal_ofMatch (hitems m hm)
    have hgather : ofMatch (.seq items) = .ok (gather trees) := by
      rw [ofMatch, htrees]
      rfl
    have hgathered := Except.ok.inj (hgather.symm.trans hbuilt)
    refine ⟨trees, _, htrees, hbuilt, mergeInPlace_of_gather hnormal hgathered, ?_, ?_⟩
    · rw [Match.entries_seq hitems, keys_collate, firsts_eq_eraseDups, List.map_flatMap]
      rfl
    · intro key value he
      rw [Match.entries_seq hitems, collate_eq_map] at he
      obtain ⟨k, hk, hsame⟩ := List.mem_map.mp he
      obtain ⟨rfl, rfl⟩ := Prod.mk.inj hsame
      have hsome := mt valuesUnder_eq_nil_iff.mp (not_not.mpr (mem_firsts.mp hk))
      rw [Match.valuesUnder_flatMap] at hsome ⊢
      exact settle_cases hsome
  · obtain ⟨built, hbuilt, hnormal⟩ := normal_ofMatch hm
    refine ⟨built, hbuilt, fun t ht => ⟨fun s hs => ?_, (hnormal t ht).keyless⟩⟩
    have hvoid := (hnormal t ht).solid s hs
    constructor
    · rintro rfl
      cases hvoid
    · rintro rfl
      cases hvoid

-- A key whose first value is a list and whose second one is a list of collected values already, and which
-- comes a third time.
def crowded : List Match :=
  [.leaf ['x'],
    .labeled "K" (.seq [.leaf ['1'], .leaf ['2']]),
    .seq [.labeled "K" (.leaf ['3']), .labeled "J" (.leaf ['4']), .labeled "K" (.leaf ['5'])],
    .labeled "K" (.leaf ['6'])]

def crowdedTree : Tree :=
  .dict [("K", .list [.list [.text ['1'], .text ['2']], .list [.text ['3'], .text ['5']], .text ['6']]),
    ("J", .text ['4'])]

theorem ofMatch_merges_crowded :
    (∀ m ∈ crowded, m.Genuine) ∧
      (∃ m ∈ crowded, ∃ entries, ofMatch m = .ok (some (.dict entries))) ∧
      ofMatch (.seq crowded) = .ok (some crowdedTree) ∧
      (∃ trees entries, ofItems crowded = .ok trees ∧
        mergeInPlace (trees.filterMap entries?) = entries ∧ crowdedTree = .dict entries) ∧
      (crowded.flatMap Match.keys).eraseDups = ["K", "J"] ∧
      crowded.flatMap (Match.valuesUnder "K") =
        [.list [.text ['1'], .text ['2']], .list [.text ['3'], .text ['5']], .text ['6']] ∧
      ∀ s : Tree, s.Inside crowdedTree → s ≠ .list [] ∧ s ≠ .dict [] := by
  have hgenuine : ∀ m ∈ crowded, m.Genuine := by simp [crowded]
  have hdict : ∃ m ∈ crowded, ∃ entries, ofMatch m = .ok (some (.dict entries)) :=
    ⟨.labeled "K" (.leaf ['6']), by simp [crowded], [("K", .text ['6'])], rfl⟩
  have hbuilt : ofMatch (.seq crowded) = .ok (some crowdedTree) := rfl
  obtain ⟨trees, entries, htrees, hentries, hmerge, hkeys, hvalues⟩ :=
    ofMatch_merges.1 crowded hgenuine hdict
  obtain ⟨⟩ := Option.some.inj (Except.ok.inj (hentries.symm.trans hbuilt))
  obtain ⟨built, hbuilt', hnormal⟩ := ofMatch_merges.2 (.seq crowded) (.seq hgenuine)
  obtain rfl := Except.ok.inj (hbuilt'.symm.trans hbuilt)
  refine ⟨hgenuine, hdict, hbuilt, ⟨trees, _, htrees, hmerge, rfl⟩, hkeys.symm, ?_, (hnormal _ rfl).1⟩
  rcases hvalues "K" _ List.mem_cons_self with hone | ⟨-, hlist⟩
  · cases hone
  · exact (Tree.list.inj hlist).symm

end Tree

end Descent
