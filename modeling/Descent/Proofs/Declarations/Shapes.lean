import Descent.Proofs.Declarations.Totality
import Descent.Proofs.Wording

namespace Descent.Text

def Gap.join (a b : Gap) : Gap :=
  ⟨a.1 ++ b.1, List.forall_mem_append.mpr ⟨a.2, b.2⟩⟩

end Descent.Text

namespace Descent.Example.Declarations

open Descent.Parser Descent.Text

section

variable {env : Env}

-- Pieces with a comma in front of each and a gap behind each. A gap goes to the comma that follows it,
-- and the last one is left over.
theorem exists_listed {α : Type} (write : α → Text) (front : Gap) (pieces : List (Listed α × Gap)) :
    ∃ (listed : List (Listed α)) (last : Gap),
      front.1 ++ pieces.flatMap (fun x => x.1.text write ++ x.2.1) =
        listed.flatMap (Listed.text write) ++ last.1 ∧
      listed.map (·.item) = pieces.map (·.1.item) := by
  induction pieces generalizing front with
  | nil => exact ⟨[], front, by simp, rfl⟩
  | cons piece rest ih =>
      obtain ⟨l, gap⟩ := piece
      obtain ⟨listed, last, htext, hitems⟩ := ih gap
      refine ⟨{ l with before := front.join l.before } :: listed, last, ?_, ?_⟩
      · simpa [Listed.text, Gap.join] using htext
      · simp [hitems]

theorem comma_spells :
    Spells env comma (fun gaps : Gap × Gap => gaps.1.1 ++ ([','] ++ gaps.2.1)) fun _ => .leaf [','] :=
  spells_symbol rfl

theorem word_spells :
    Spells env (lexeme word) (fun x : Word × Gap => x.1.1 ++ x.2.1) fun x => .leaf x.1.1 :=
  (spells_run settles_word).lexeme

theorem numeral_spells : Spells env (lexeme natural)
    (fun x : Token isAsciiDigit × Gap => x.1.1 ++ x.2.1) fun x => .leaf x.1.1 :=
  (spells_run settles_natural).lexeme

theorem tokens_spell {accepts : Char → Bool} {element : Parser} {value : Text → Match}
    (helement : Spells env element (fun x : Token accepts × Gap => x.1.1 ++ x.2.1)
      fun x => value x.1.1) :
    Spells env (sepBy comma element)
      (fun x? : Option (Tokens accepts × Gap) => x?.elim [] fun x => x.1.text ++ x.2.1)
      fun x? => .seq ((x?.elim [] fun x => x.1.items).map value) := by
  refine (comma_spells.sepBy helement).as fun list => ?_
  cases list with
  | none => exact ⟨none, rfl, rfl⟩
  | some x =>
      obtain ⟨⟨first, gap⟩, others⟩ := x
      let pieces : List (Listed (Token accepts) × Gap) :=
        others.map fun y => (⟨y.1.1, y.1.2, y.2.1⟩, y.2.2)
      obtain ⟨listed, last, htext, hitems⟩ := exists_listed Subtype.val gap pieces
      refine ⟨some (⟨first, listed⟩, last), ?_, ?_⟩
      · simpa [pieces, Tokens.text, Listed.text, List.flatMap_map] using htext
      · have hvalues := congrArg (List.map fun a : Token accepts => value a.1) hitems
        simpa [pieces, Tokens.items, Function.comp_def] using hvalues.symm

theorem keyword_spells : Spells env keywordPart Keyword.text Keyword.match := by
  have hequals : Spells env (symbol ['=']) _ _ := spells_symbol rfl
  have hpart : Spells env keywordPart _ fun x : (Word × Gap) × (Gap × Gap) × Unit =>
      .seq [.leaf x.1.1.1, .leaf ['=']] :=
    (word_spells.cons (hequals.cons spellsAll_nil)).sequence rfl fun _ => rfl
  refine hpart.as fun x => ?_
  obtain ⟨⟨a, gap⟩, ⟨before, after⟩, -⟩ := x
  exact ⟨⟨a, gap.join before, after⟩, by simp [Keyword.text, Gap.join], rfl⟩

theorem selector_spells : Spells env (lexeme selector) Selector.text Selector.match := by
  have hinside : Spells env (sequence [maybe keywordPart, label "Kind" (lexeme word)] .all) _
      fun x : Option Keyword × (Word × Gap) × Unit =>
        .seq [x.1.elim .empty Keyword.match, .labeled "Kind" (.leaf x.2.1.1.1)] :=
    (keyword_spells.maybe.cons ((word_spells.label "Kind").cons spellsAll_nil)).sequence rfl
      fun _ => rfl
  refine hinside.parens.lexeme.as fun x => ?_
  obtain ⟨⟨keyword, ⟨kind, before⟩, -⟩, after⟩ := x
  exact ⟨⟨keyword, kind, before, after⟩, by simp [Selector.text], rfl⟩

theorem dimension_spells : Spells env dimension
    (fun x : Gap × Gap × Option Extents => x.1.1 ++ (Attribute.dimension x.2.1 x.2.2).text)
    fun x => (Attribute.dimension x.2.1 x.2.2).match := by
  have hword : Spells env (symbol "dimension".toList) _ _ := spells_symbol rfl
  have hshape : Spells env (parens (label "Shape" (sepBy comma (lexeme natural)))) _ _ :=
    ((tokens_spell numeral_spells).label "Shape").parens
  have hdimension : Spells env dimension _
      fun x : (Gap × Gap) × Option (Tokens isAsciiDigit × Gap) × Unit =>
        .seq [.leaf "dimension".toList,
          .labeled "Shape" (.seq ((x.2.1.elim [] fun y => y.1.items).map .leaf))] :=
    (hword.cons (hshape.cons spellsAll_nil)).sequence rfl fun _ => rfl
  refine hdimension.as fun x => ?_
  obtain ⟨⟨before, after⟩, tokens?, -⟩ := x
  refine ⟨(before, after, tokens?.map fun y => ⟨y.1, y.2⟩), ?_, ?_⟩
  · cases tokens? <;> simp [Attribute.text_dimension, Extents.text]
  · cases tokens? <;> simp [Attribute.match, Attribute.extentNumerals]

-- Blanks are taken on both sides of an attribute, but behind a dimension they are left.
theorem attribute_spells : Spells env attributeSpec
    (fun x : Gap × Attribute × Gap => x.1.1 ++ (x.2.1.text ++ x.2.2.1)) fun x => x.2.1.match := by
  have hdimension : Spells env dimension
      (fun x : Gap × Attribute × Gap => x.1.1 ++ (x.2.1.text ++ x.2.2.1)) fun x => x.2.1.match :=
    dimension_spells.as fun x => ⟨(x.1, .dimension x.2.1 x.2.2, noGap), by simp [noGap, Gap.of], rfl⟩
  have hsimple : Spells env (label "Attr" (oneOf simpleAttributes))
      (fun x : Gap × Attribute × Gap => x.1.1 ++ (x.2.1.text ++ x.2.2.1)) fun x => x.2.1.match :=
    ((spells_oneOf simpleAttributes).label "Attr").as fun x => ⟨(x.1, .simple x.2.1, x.2.2), rfl, rfl⟩
  exact Spells.choice rfl (by simpa using ⟨hdimension, hsimple⟩)

theorem attributes_spell : Spells env (many attributeEntry)
    (fun x : List (Listed Attribute) × Gap => x.1.flatMap (Listed.text Attribute.text) ++ x.2.1)
    fun x => .seq (x.1.map (·.item.entryMatch)) := by
  have hentry : Spells env attributeEntry
      (fun x : Listed Attribute × Gap => x.1.text Attribute.text ++ x.2.1)
      fun x => x.1.item.entryMatch := by
    have hpair : Spells env attributeEntry _
        fun x : (Gap × Gap) × (Gap × Attribute × Gap) × Unit => x.2.1.2.1.entryMatch :=
      (comma_spells.cons (attribute_spells.cons spellsAll_nil)).sequence rfl fun _ => rfl
    refine hpair.as fun x => ?_
    obtain ⟨⟨before, after⟩, ⟨front, a, behind⟩, -⟩ := x
    exact ⟨(⟨before, after.join front, a⟩, behind), by simp [Listed.text, Gap.join], rfl⟩
  refine hentry.many.as fun pieces => ?_
  obtain ⟨listed, last, htext, hitems⟩ := exists_listed Attribute.text noGap pieces
  refine ⟨(listed, last), by simpa [noGap, Gap.of] using htext, ?_⟩
  have hmatches := congrArg (List.map Attribute.entryMatch) hitems
  simpa [Function.comp_def] using hmatches.symm

-- A declaration as the grammar takes it, with every gap in it.
structure Wording where
  front : Gap
  type : {t : Text // t ∈ typeNames}
  afterType : Gap
  selector : Option Selector
  attributes : List (Listed Attribute)
  beforeColons : Gap
  afterColons : Gap
  names : Option (Tokens isWordChar)
  back : Gap

namespace Wording

def text (w : Wording) : Text :=
  w.front.1 ++ (w.type.1 ++ (w.afterType.1 ++ (w.selector.elim [] Selector.text ++
    (w.attributes.flatMap (Listed.text Attribute.text) ++ (w.beforeColons.1 ++
      ':' :: ':' :: (w.afterColons.1 ++ (w.names.elim [] Tokens.text ++ w.back.1)))))))

def contents (w : Wording) : Contents :=
  ⟨w.type, w.selector, w.attributes.map (·.item),
    w.names.elim [] fun names => names.first :: names.others.map (·.item)⟩

-- The extents of its dimensions in their order, without those that have none.
def extents (w : Wording) : List (List Text) :=
  (w.attributes.map (·.item.extentNumerals)).filter (!·.isEmpty)

theorem nameTexts_contents (w : Wording) : w.contents.nameTexts = w.names.elim [] Tokens.items := by
  cases hnames : w.names <;>
    simp [contents, Contents.nameTexts, Tokens.items, Function.comp_def, hnames]

end Wording

theorem declaration_spells : Spells env declaration Wording.text fun w => w.contents.match := by
  have htype : Spells env typeSpec _ _ := (spells_oneOf typeNames).label "Type"
  have hcolons : Spells env (symbol [':', ':']) _ _ := spells_symbol rfl
  have hname : Spells env (label "Var" (lexeme word)) (fun x : Word × Gap => x.1.1 ++ x.2.1)
      fun x => nameMatch x.1.1 := word_spells.label "Var"
  have hnames : Spells env (sepBy comma (label "Var" (lexeme word))) _ _ := tokens_spell hname
  have hall := htype.cons (selector_spells.maybe.cons (attributes_spell.cons (hcolons.cons
    (hnames.cons spellsAll_nil))))
  have hdeclaration : Spells env declaration _ fun x :
      (Gap × {t : Text // t ∈ typeNames} × Gap) × Option Selector ×
        (List (Listed Attribute) × Gap) × (Gap × Gap) × Option (Tokens isWordChar × Gap) × Unit =>
      .seq [.labeled "Type" (.leaf x.1.2.1.1), x.2.1.elim .empty Selector.match,
        .seq (x.2.2.1.1.map (·.item.entryMatch)), .leaf [':', ':'],
        .seq ((x.2.2.2.2.1.elim [] fun y => y.1.items).map nameMatch)] :=
    hall.sequence rfl fun _ => rfl
  refine hdeclaration.as fun x => ?_
  obtain ⟨⟨front, type, afterType⟩, selector, ⟨attributes, last⟩, ⟨before, after⟩, names, -⟩ := x
  refine ⟨⟨front, type, afterType, selector, attributes, last.join before, after,
    names.map (·.1), (names.map (·.2)).getD noGap⟩, ?_, ?_⟩
  · cases names <;> simp [Wording.text, Gap.join, noGap, Gap.of]
  · rw [Contents.match, Wording.nameTexts_contents]
    cases names <;> simp [Wording.contents, Function.comp_def]

theorem grammar_spells : Spells env grammar
    (fun x : Gap × List Wording => x.1.1 ++ x.2.flatMap Wording.text)
    fun x => .seq [.empty, .seq (x.2.map fun w => w.contents.labeledMatch)] := by
  have hmany : Spells env (many (label "Decl" declaration)) _ _ :=
    (declaration_spells.label "Decl").many
  have hgrammar : Spells env grammar _ fun x : Gap × List Wording × Unit =>
      .seq [.empty, .seq (x.2.1.map fun w => w.contents.labeledMatch)] :=
    (spells_whiteSpace.cons (hmany.cons spellsAll_nil)).sequence rfl fun _ => rfl
  exact hgrammar.as fun x => ⟨(x.1, x.2.1), by simp, rfl⟩

end

theorem flatMap_shapeTrees (lists : List (List Text)) :
    lists.flatMap shapeTrees =
      (lists.filter (!·.isEmpty)).map fun extents => .list (extents.map .text) := by
  induction lists with
  | nil => rfl
  | cons extents rest ih =>
      rw [List.flatMap_cons, ih]
      cases extents <;> simp [shapeTrees]

-- One list of extents is a shape by itself, several lists are a shape of lists.
theorem asList_collect_lists (lists : List (List Text)) :
    asList (Tree.collect (lists.map fun extents => .list (extents.map .text))).head? =
      if lists.length ≤ 1 then lists.flatten.map .text
      else lists.map fun extents => .list (extents.map .text) := by
  match lists with
  | [] => rfl
  | [extents] => simp [asList]
  | _ :: _ :: _ => simp [asList, Tree.collect, Tree.settle]

-- How the shape of a record comes from the extents of a declaration.
structure Wording.Shapes (w : Wording) (r : Record) : Prop where
  numerals : ∀ extents ∈ w.extents, extents ≠ [] ∧
    ∀ numeral ∈ extents, numeral ≠ [] ∧ ∀ c ∈ numeral, isAsciiDigit c = true
  flat : w.extents.length ≤ 1 → r.shape = w.extents.flatten.map .text
  nested : 2 ≤ w.extents.length → r.shape = w.extents.map fun extents => .list (extents.map .text)

theorem Attribute.numeral_digits (a : Attribute) : ∀ numeral ∈ a.extentNumerals,
    numeral ≠ [] ∧ ∀ c ∈ numeral, isAsciiDigit c = true := by
  intro numeral hnumeral
  match a with
  | .simple _ => cases hnumeral
  | .dimension _ none => cases hnumeral
  | .dimension _ (some e) =>
      have hitems : numeral = e.numerals.first.1 ∨ ∃ l ∈ e.numerals.others, l.item.1 = numeral := by
        simpa [extentNumerals, Tokens.items] using hnumeral
      rcases hitems with rfl | ⟨l, -, rfl⟩
      · exact e.numerals.first.2
      · exact l.item.2

theorem Wording.shapes (w : Wording) : w.Shapes w.contents.record := by
  have hlists : w.contents.attributes.flatMap (fun a => shapeTrees a.extentNumerals) =
      w.extents.map fun extents => .list (extents.map .text) := by
    rw [Wording.extents, ← flatMap_shapeTrees, List.flatMap_map, contents, List.flatMap_map]
  have hshape : w.contents.record.shape =
      if w.extents.length ≤ 1 then w.extents.flatten.map .text
      else w.extents.map fun extents => .list (extents.map .text) := by
    rw [Contents.record, hlists, asList_collect_lists]
  refine ⟨fun extents hextents => ?_, fun hone => ?_, fun htwo => ?_⟩
  · obtain ⟨hmem, hsome⟩ := List.mem_filter.mp hextents
    obtain ⟨l, -, rfl⟩ := List.mem_map.mp hmem
    exact ⟨by simpa using hsome, l.item.numeral_digits⟩
  · rw [hshape, if_pos hone]
  · rw [hshape, if_neg (by omega)]

-- Every source that is read is written as declarations with blanks around them, which are those that the
-- grammar takes, and the records have the shapes of these.
theorem parse_shapes [CharNames] {source : Text} {built : Option Tree} (h : (parse source).outcome = .ok built) :
    ∃ (front back : Gap) (wordings : List Wording) (records : List Record),
      source = front.1 ++ (wordings.flatMap Wording.text ++ back.1) ∧
      (grammar.invoke env nestingLimit source).outcome =
        .ok (.ok back.1 (.seq [.empty, .seq (wordings.map fun w => w.contents.labeledMatch)])) ∧
      normalize built = .ok records ∧ List.Forall₂ Wording.Shapes wordings records := by
  obtain ⟨rest, m, hrun, hspent, hbuilt⟩ := Runner.invoke_of_parse h
  obtain ⟨back, hback⟩ := exists_gap rest
  rw [hspent rfl, List.append_nil] at hback
  subst hback
  obtain ⟨⟨front, wordings⟩, hsource, rfl⟩ := grammar_spells _ _ _ (ComesTo.of_outcome hrun (by simp))
  have hlabeled : wordings.map (fun w => w.contents.labeledMatch) =
      (wordings.map Wording.contents).map Contents.labeledMatch := by
    rw [List.map_map]
    rfl
  refine ⟨front, back, wordings, (wordings.map Wording.contents).map Contents.record, ?_, hrun, ?_, ?_⟩
  · rw [← List.append_assoc]
    exact hsource
  · exact Contents.normalize_built _ (hlabeled ▸ hbuilt)
  · rw [List.forall₂_map_right_iff, List.forall₂_map_right_iff]
    exact List.forall₂_same.mpr fun w _ => w.shapes

-- Two dimensions, of which one has no extents; and two that have some.
def dimensions : Text :=
  "real,dimension(),dimension(3,4)::x\ninteger,dimension(2),dimension(3)::y".toList

attribute [local instance] CharNames.nameless

theorem parse_shapes_dimensions : ∃ built records,
    (parse dimensions).outcome = .ok built ∧ normalize built = .ok records ∧
      records.map (·.shape) =
        [[.text ['3'], .text ['4']], [.list [.text ['2']], .list [.text ['3']]]] ∧
      ∃ wordings, List.Forall₂ Wording.Shapes wordings records := by
  obtain ⟨built, hbuilt, records, hrecords, hshapes⟩ : ∃ built,
      (parse dimensions).outcome = .ok built ∧ ∃ records, normalize built = .ok records ∧
        records.map (·.shape) =
          [[.text ['3'], .text ['4']], [.list [.text ['2']], .list [.text ['3']]]] :=
    ⟨_, rfl, _, rfl, rfl⟩
  obtain ⟨-, -, wordings, records', -, -, hrecords', hall⟩ := parse_shapes hbuilt
  obtain rfl := Except.ok.inj (hrecords'.symm.trans hrecords)
  exact ⟨built, records', hbuilt, hrecords, hshapes, wordings, hall⟩

-- Of two dimensions with extents the shape is no list of extents, but a list of two such lists.
theorem shape_of_two_dimensions : ∃ built r,
    (parse "integer, dimension(2), dimension(3) :: x".toList).outcome = .ok built ∧
      normalize built = .ok [r] ∧ r.shape = [.list [.text ['2']], .list [.text ['3']]] ∧
      ¬∀ extent ∈ r.shape, ∃ numeral : Token isAsciiDigit, extent = .text numeral.1 := by
  obtain ⟨built, r, hbuilt, hrecord, hshape⟩ : ∃ built r,
      (parse "integer, dimension(2), dimension(3) :: x".toList).outcome = .ok built ∧
        normalize built = .ok [r] ∧ r.shape = [.list [.text ['2']], .list [.text ['3']]] :=
    ⟨_, _, rfl, rfl, rfl⟩
  exact ⟨built, r, hbuilt, hrecord, hshape, by simp [hshape]⟩

end Descent.Example.Declarations
