import Descent.Proofs.Collecting
import Descent.Proofs.Declarations.Reading

namespace Descent.Example.Declarations

open Descent.Tree (collect)

variable {key : String}

theorem valueAt?_eq_head? (entries : List (String × Tree)) :
    valueAt? key entries = (Tree.valuesUnder key (.dict entries)).head? := by
  simp [valueAt?, Tree.valuesUnder, List.head?_filter]

-- As long as no value is a list itself, a value alone is told from a list of values.
theorem asList_collect {values : List Tree} (h : ∀ value ∈ values, ∀ items, value ≠ .list items) :
    asList (collect values).head? = values := by
  match values with
  | [] => rfl
  | [value] =>
      cases value with
      | list items => exact absurd rfl (h _ List.mem_cons_self items)
      | _ => rfl
  | _ :: _ :: _ => rfl

theorem asList_collect_texts (ts : List Text) :
    asList (collect (ts.map .text)).head? = ts.map .text := by
  refine asList_collect fun value hvalue items => ?_
  obtain ⟨t, -, rfl⟩ := List.mem_map.mp hvalue
  simp

theorem normalize_eq (built : Option Tree) :
    normalize built =
      (asList (built.toList.flatMap (Tree.valuesUnder "Decl")).head?).mapM Record.ofTree := by
  match built with
  | none => rfl
  | some (.text _) => rfl
  | some (.list _) => rfl
  | some (.dict entries) => simp [normalize, valueAt?_eq_head?]

theorem valuesUnder_labeled_leaf (name : String) (t : Text) :
    Match.valuesUnder key (.labeled name (.leaf t)) = if name = key then [.text t] else [] :=
  Match.valuesUnder_labeled rfl rfl

theorem Selector.genuine (s : Selector) : s.match.Genuine := by
  cases hkeyword : s.keyword <;> simp [Selector.match, Keyword.match, hkeyword]

theorem Attribute.genuine (a : Attribute) : a.entryMatch.Genuine := by
  cases a <;> simp [Attribute.entryMatch, Attribute.match]

-- The values of a selector, of an attribute and of the names under each key.
theorem Selector.valuesUnder (s : Selector) :
    s.match.valuesUnder key = if "Kind" = key then [.text s.kind.1] else [] := by
  have hkeyword : (s.keyword.elim .empty Keyword.match).valuesUnder key = [] := by
    cases s.keyword <;> rfl
  have hgenuine := Match.genuine_seq.mp s.genuine
  rw [Selector.match, Match.valuesUnder_seq hgenuine]
  by_cases hkey : "Kind" = key <;> simp [hkeyword, valuesUnder_labeled_leaf, hkey]

def shapeTrees (extents : List Text) : List Tree :=
  if extents = [] then [] else [.list (extents.map .text)]

def Attribute.treesUnder (key : String) (a : Attribute) : List Tree :=
  (if "Attr" = key then a.simpleNames.map .text else []) ++
    if "Shape" = key then shapeTrees a.extentNumerals else []

theorem collect_shapeTrees (extents : List Text) :
    collect (shapeTrees extents) = shapeTrees extents := by
  by_cases hnone : extents = [] <;> simp [shapeTrees, hnone]

theorem valuesUnder_shape (extents : List Text) :
    Match.valuesUnder key (.labeled "Shape" (.seq (extents.map .leaf))) =
      if "Shape" = key then shapeTrees extents else [] := by
  have hbuilt := Tree.ofMatch_leaves extents
  by_cases hnone : extents = []
  · rw [if_pos hnone] at hbuilt
    rw [Match.valuesUnder_labeled_none hbuilt]
    simp [shapeTrees, hnone]
  · rw [if_neg hnone] at hbuilt
    have hsolid : (Tree.list (extents.map .text)).isVoid = false := by
      simp [Tree.isVoid_list, hnone]
    rw [Match.valuesUnder_labeled hbuilt hsolid]
    simp [shapeTrees, hnone]

theorem Attribute.match_valuesUnder (a : Attribute) :
    a.match.valuesUnder key = a.treesUnder key := by
  cases a with
  | simple name =>
      by_cases hkey : "Attr" = key <;>
        simp [Attribute.match, valuesUnder_labeled_leaf, treesUnder, simpleNames, extentNumerals,
          shapeTrees, hkey]
  | dimension gap extents =>
      have hseq : (Attribute.dimension gap extents).match.valuesUnder key =
          collect (List.flatMap (Match.valuesUnder key) [.leaf "dimension".toList, .labeled "Shape"
            (.seq ((Attribute.dimension gap extents).extentNumerals.map .leaf))]) :=
        Match.valuesUnder_seq (by simp)
      rw [hseq]
      simp only [List.flatMap_cons, List.flatMap_nil, Match.valuesUnder_leaf, valuesUnder_shape]
      by_cases hkey : "Shape" = key <;> simp [treesUnder, simpleNames, collect_shapeTrees, hkey]

-- No attribute has more than one value under a key.
theorem Attribute.collect_treesUnder (a : Attribute) :
    collect (a.treesUnder key) = a.treesUnder key := by
  cases a with
  | simple name =>
      by_cases hkey : "Attr" = key <;>
        simp [treesUnder, simpleNames, extentNumerals, shapeTrees, hkey]
  | dimension gap extents =>
      by_cases hkey : "Shape" = key <;> simp [treesUnder, simpleNames, collect_shapeTrees, hkey]

theorem Attribute.valuesUnder (a : Attribute) :
    a.entryMatch.valuesUnder key = a.treesUnder key := by
  rw [Attribute.entryMatch, Match.valuesUnder_seq (Match.genuine_seq.mp a.genuine)]
  simp [a.match_valuesUnder, a.collect_treesUnder]

-- As the grammar takes it: the names may be missing, and there may be several dimensions.
structure Contents where
  type : {t : Text // t ∈ typeNames}
  selector : Option Selector
  attributes : List Attribute
  names : List Word

def Contents.nameTexts (c : Contents) : List Text :=
  c.names.map Subtype.val

def Contents.match (c : Contents) : Match :=
  .seq [.labeled "Type" (.leaf c.type.1), c.selector.elim .empty Selector.match,
    .seq (c.attributes.map Attribute.entryMatch), .leaf [':', ':'],
    .seq (c.nameTexts.map nameMatch)]

namespace Contents

def labeledMatch (c : Contents) : Match :=
  .labeled "Decl" c.match

-- Of several dimensions each has a list of its own.
def record (c : Contents) : Record where
  type := .text c.type.1
  kind := c.selector.map fun selector => .text selector.kind.1
  shape := asList (collect (c.attributes.flatMap fun a => shapeTrees a.extentNumerals)).head?
  attributes := (c.attributes.flatMap Attribute.simpleNames).map .text
  names := c.nameTexts.map .text

theorem genuine (c : Contents) : c.match.Genuine := by
  have hselector : (c.selector.elim .empty Selector.match).Genuine := by
    cases c.selector with
    | none => exact .empty
    | some selector => exact selector.genuine
  simp [Contents.match, hselector, Attribute.genuine, nameMatch]

theorem valuesUnder (c : Contents) : c.match.valuesUnder key =
    collect ((if "Type" = key then [.text c.type.1] else []) ++
      ((if "Kind" = key then (c.selector.map fun x => .text x.kind.1).toList else []) ++
        (collect (c.attributes.flatMap (Attribute.treesUnder key)) ++
          if "Var" = key then collect (c.nameTexts.map .text) else []))) := by
  have hselector : (c.selector.elim .empty Selector.match).valuesUnder key =
      if "Kind" = key then (c.selector.map fun x => .text x.kind.1).toList else [] := by
    cases c.selector with
    | none => simp
    | some selector => simp [selector.valuesUnder]
  have hattributes : Match.valuesUnder key (.seq (c.attributes.map Attribute.entryMatch)) =
      collect (c.attributes.flatMap (Attribute.treesUnder key)) := by
    rw [Match.valuesUnder_seq (by simp [Attribute.genuine]), List.flatMap_map]
    simp only [Attribute.valuesUnder]
  have hnames : Match.valuesUnder key (.seq (c.nameTexts.map nameMatch)) =
      if "Var" = key then collect (c.nameTexts.map .text) else [] := by
    rw [Match.valuesUnder_seq (by simp [nameMatch]), List.flatMap_map]
    simp only [nameMatch, valuesUnder_labeled_leaf]
    by_cases hkey : "Var" = key
    · simp only [hkey, if_true]
      rw [List.map_eq_flatMap]
    · have hnone : c.nameTexts.flatMap (fun _ => ([] : List Tree)) = [] := by simp
      simp [hkey, hnone]
  rw [Contents.match, Match.valuesUnder_seq (Match.genuine_seq.mp c.genuine)]
  simp [hselector, hattributes, hnames, valuesUnder_labeled_leaf]

theorem noTreesUnder {attributes : List Attribute} (hattr : "Attr" ≠ key) (hshape : "Shape" ≠ key) :
    attributes.flatMap (Attribute.treesUnder key) = [] := by
  simp [Attribute.treesUnder, hattr, hshape]

theorem types (c : Contents) : c.match.valuesUnder "Type" = [c.record.type] := by
  rw [c.valuesUnder, noTreesUnder (by decide) (by decide)]
  rfl

theorem kinds (c : Contents) : c.match.valuesUnder "Kind" = c.record.kind.toList := by
  rw [c.valuesUnder, noTreesUnder (by decide) (by decide), record]
  cases c.selector <;> rfl

theorem shapes (c : Contents) : c.match.valuesUnder "Shape" =
    collect (c.attributes.flatMap fun a => shapeTrees a.extentNumerals) := by
  have hshapes : c.attributes.flatMap (Attribute.treesUnder "Shape") =
      c.attributes.flatMap fun a => shapeTrees a.extentNumerals := rfl
  rw [c.valuesUnder, hshapes]
  simp

theorem simples (c : Contents) : c.match.valuesUnder "Attr" = collect c.record.attributes := by
  have hsimples : c.attributes.flatMap (Attribute.treesUnder "Attr") = c.record.attributes := by
    have htrees : ∀ a : Attribute, a.treesUnder "Attr" = a.simpleNames.map .text := by
      simp [Attribute.treesUnder]
    rw [record, List.map_flatMap]
    exact List.flatMap_congr fun a _ => htrees a
  rw [c.valuesUnder, hsimples]
  simp

theorem vars (c : Contents) : c.match.valuesUnder "Var" = collect c.record.names := by
  rw [c.valuesUnder, noTreesUnder (by decide) (by decide)]
  simp [record]

-- The tree of a declaration is the dictionary of its record.
theorem built (c : Contents) :
    ∃ entries, Tree.ofMatch c.match = .ok (some (.dict entries)) ∧
      (Tree.dict entries).isVoid = false ∧ Record.ofTree (.dict entries) = .ok c.record := by
  obtain ⟨built, hbuilt, -⟩ := Tree.folds_of_genuine c.genuine
  have hvalues : ∀ key, c.match.valuesUnder key = built.toList.flatMap (Tree.valuesUnder key) :=
    fun key => Match.valuesUnder_of_built hbuilt
  have htype := (hvalues "Type").symm.trans c.types
  obtain ⟨entries, rfl⟩ : ∃ entries, built = some (.dict entries) := by
    match built with
    | some (.dict entries) => exact ⟨entries, rfl⟩
    | none => cases htype
    | some (.text _) => cases htype
    | some (.list _) => cases htype
  have hvalue : ∀ key, valueAt? key entries = (c.match.valuesUnder key).head? := by
    intro key
    rw [valueAt?_eq_head?, hvalues]
    simp
  refine ⟨entries, hbuilt, ?_, ?_⟩
  · rw [Tree.isVoid_dict, List.isEmpty_eq_false_iff]
    rintro rfl
    cases htype
  · have hkind : c.record.kind.toList.head? = c.record.kind := by cases c.record.kind <;> rfl
    have hattributes : asList (collect c.record.attributes).head? = c.record.attributes :=
      asList_collect_texts _
    have hnames : asList (collect c.record.names).head? = c.record.names := asList_collect_texts _
    simp only [Record.ofTree, hvalue, c.types, c.kinds, c.shapes, c.simples, c.vars,
      List.head?_cons, hkind, hattributes, hnames]
    rfl

theorem ofTrees_eq_ok (contents : List Contents) {tree : Contents → Tree}
    (h : ∀ c, Record.ofTree (tree c) = .ok c.record) :
    (contents.map tree).mapM Record.ofTree = .ok (contents.map record) := by
  induction contents with
  | nil => rfl
  | cons c rest ih =>
      rw [List.map_cons, List.mapM_cons, h, ih]
      rfl

-- The tree of a source holds the trees of its declarations.
theorem normalize_built (contents : List Contents) {built : Option Tree}
    (hbuilt : Tree.ofMatch (.seq [.empty, .seq (contents.map labeledMatch)]) = .ok built) :
    normalize built = .ok (contents.map record) := by
  choose entries hentries hsolid hrecord using Contents.built
  have hlabeled : ∀ c : Contents, c.labeledMatch.Genuine := fun c => c.genuine.labeled
  have hdeclaration : ∀ c : Contents, c.labeledMatch.valuesUnder "Decl" = [.dict (entries c)] := by
    intro c
    rw [labeledMatch, Match.valuesUnder_labeled (hentries c) (hsolid c), if_pos rfl]
  have hvalues : built.toList.flatMap (Tree.valuesUnder "Decl") =
      collect (contents.map fun c => .dict (entries c)) := by
    rw [← Match.valuesUnder_of_built hbuilt, Match.valuesUnder_seq (by simp [hlabeled])]
    simp only [List.flatMap_cons, List.flatMap_nil, Match.valuesUnder_empty, List.nil_append,
      List.append_nil]
    rw [Match.valuesUnder_seq (by simp [hlabeled]), List.flatMap_map]
    simp only [hdeclaration, Tree.collect_collect]
    rw [List.map_eq_flatMap]
  have hdicts : ∀ value ∈ contents.map fun c => Tree.dict (entries c),
      ∀ items, value ≠ .list items := by
    intro value hvalue items
    obtain ⟨c, -, rfl⟩ := List.mem_map.mp hvalue
    simp
  rw [normalize_eq, hvalues, asList_collect hdicts]
  exact ofTrees_eq_ok contents hrecord

end Contents

end Descent.Example.Declarations
