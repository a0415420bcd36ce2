import Descent.Proofs.Declarations.Contents
import Descent.Proofs.Outcomes

namespace Descent.Example.Declarations

open Descent.Tree (collect)
open Descent.Text (Gap Token)

theorem extents_of_noDimension {attributes : List (Listed Attribute)}
    (h : attributes.filter (·.item.isDimension) = []) :
    attributes.flatMap (·.item.extentNumerals) = [] := by
  rw [List.flatMap_eq_nil_iff]
  intro l hl
  have hsimple : l.item.isDimension = false := by
    simpa using List.filter_eq_nil_iff.mp h l hl
  cases hitem : l.item with
  | simple name => rfl
  | dimension gap extents => simp [hitem, Attribute.isDimension] at hsimple

-- With one dimension at most, the extents of all attributes are those of one.
theorem shapeTrees_of_oneDimension {attributes : List (Listed Attribute)}
    (h : (attributes.filter (·.item.isDimension)).length ≤ 1) :
    attributes.flatMap (fun l => shapeTrees l.item.extentNumerals) =
      shapeTrees (attributes.flatMap (·.item.extentNumerals)) := by
  induction attributes with
  | nil => rfl
  | cons l rest ih =>
      rw [List.flatMap_cons, List.flatMap_cons]
      cases hitem : l.item with
      | simple name =>
          have hrest := ih (by simpa [hitem, Attribute.isDimension] using h)
          rw [hrest]
          rfl
      | dimension gap extents =>
          have hnone : rest.filter (·.item.isDimension) = [] := by
            simpa [hitem, Attribute.isDimension] using h
          rw [ih (by simp [hnone]), extents_of_noDimension hnone]
          simp [shapeTrees]

theorem asList_shapeTrees (extents : List Text) :
    asList (shapeTrees extents).head? = extents.map .text := by
  by_cases hnone : extents = [] <;> simp [shapeTrees, hnone, asList]

def Statement.contents (s : Statement) : Contents :=
  ⟨s.type, s.selector, s.attributes.map (·.item), s.names.first :: s.names.others.map (·.item)⟩

theorem Statement.nameTexts_contents (s : Statement) : s.contents.nameTexts = s.names.items := by
  simp [contents, Contents.nameTexts, Tokens.items, Function.comp_def]

theorem Statement.match_contents (s : Statement) : s.contents.match = s.match := by
  rw [Contents.match, s.nameTexts_contents, contents, List.map_map]
  rfl

theorem Statement.record_contents (s : Statement) : s.contents.record = s.record := by
  have hlists : s.contents.attributes.flatMap (fun a => shapeTrees a.extentNumerals) =
      s.attributes.flatMap fun l => shapeTrees l.item.extentNumerals := List.flatMap_map ..
  have hattributes : s.contents.attributes.flatMap Attribute.simpleNames =
      s.attributes.flatMap (·.item.simpleNames) := List.flatMap_map ..
  rw [Contents.record, hlists, shapeTrees_of_oneDimension s.oneDimension, collect_shapeTrees,
    asList_shapeTrees, hattributes, s.nameTexts_contents]
  rfl

theorem Statement.parts_genuine (s : Statement) : s.match.Genuine :=
  s.match_contents ▸ s.contents.genuine

theorem normalize_statements (statements : List Statement) {built : Option Tree}
    (hbuilt : Tree.ofMatch (.seq [.empty, .seq (statements.map Statement.labeledMatch)]) = .ok built) :
    normalize built = .ok (statements.map Statement.record) := by
  have hmatches : statements.map Statement.labeledMatch =
      (statements.map Statement.contents).map Contents.labeledMatch := by
    simp [Statement.labeledMatch, Contents.labeledMatch, Statement.match_contents]
  rw [hmatches] at hbuilt
  simpa [Function.comp_def, Statement.record_contents] using Contents.normalize_built _ hbuilt

theorem Source.genuine (s : Source) : s.match.Genuine := by
  have hlabeled : ∀ statement : Statement, statement.labeledMatch.Genuine :=
    fun statement => statement.parts_genuine.labeled
  simp [Source.match, hlabeled]

-- Whatever the blanks in it, a source within the limit of size is brought into the records that it
-- was written for.
theorem parse_text [CharNames] (source : Source) (hsize : source.text.length ≤ Runner.defaultSourceSize) :
    ∃ built, (parse source.text).outcome = .ok built ∧ normalize built = .ok source.records := by
  have hrun : (grammar.invoke env nestingLimit source.text).outcome = .ok (.ok [] source.match) :=
    (source_settles source).outcome nestingLimit (by decide)
  have hfits : ¬Runner.standard.Refuses source.text := fun h => absurd h.2 (Int.not_lt.mpr hsize)
  obtain ⟨built, hbuilt, hfinish⟩ : ∃ built, Tree.ofMatch source.match = .ok built ∧
      (Runner.standard.finish source.text (.ok [] source.match)).outcome = .ok built :=
    Runner.finish_done (fun h => h.2 rfl) source.genuine
  refine ⟨built, ?_, normalize_statements _ hbuilt⟩
  rw [parse, Runner.outcome_parse hfits, hrun]
  exact hfinish

-- Two statements, the first of them with all that may be written and blanks here and there.
def points : Source :=
  let tight := Gap.of [] (by decide)
  let loose := Gap.of [' '] (by decide)
  let line := Gap.of ['\n'] (by decide)
  let three := Token.of ['3'] (by decide) (by decide)
  let ten := Token.of ['1', '0'] (by decide) (by decide)
  { front := line
    statements := some
      ({ type := ⟨"real".toList, by decide⟩
         afterType := loose
         selector := some
           { keyword := some ⟨.of "kind".toList (by decide) (by decide), tight, tight⟩
             kind := .of ['8'] (by decide) (by decide)
             before := loose
             after := tight }
         attributes := [⟨tight, loose, .simple ⟨"save".toList, by decide⟩⟩,
           ⟨loose, tight, .dimension loose (some ⟨⟨three, [⟨tight, loose, ten⟩]⟩, loose⟩)⟩]
         oneDimension := by decide
         beforeColons := loose
         afterColons := tight
         names := ⟨.of ['x'] (by decide) (by decide),
           [⟨loose, tight, .of ['y'] (by decide) (by decide)⟩]⟩ },
       [{ gap := line
          apart := by decide
          statement :=
            { type := ⟨"integer".toList, by decide⟩
              afterType := tight
              selector := none
              attributes := []
              oneDimension := by decide
              beforeColons := tight
              afterColons := tight
              names := ⟨.of ['n'] (by decide) (by decide), []⟩ } }])
    back := line }

attribute [local instance] CharNames.nameless

theorem parse_text_points :
    points.text = "\nreal (kind=8 ), save ,dimension (3, 10 ) ::x ,y\ninteger::n\n".toList ∧
      points.text.length ≤ Runner.defaultSourceSize ∧
      ∃ built, (parse points.text).outcome = .ok built ∧ normalize built = .ok
        [{ type := .text "real".toList
           kind := some (.text ['8'])
           shape := [.text ['3'], .text ['1', '0']]
           attributes := [.text "save".toList]
           names := [.text ['x'], .text ['y']] },
         { type := .text "integer".toList
           kind := none
           shape := []
           attributes := []
           names := [.text ['n']] }] :=
  ⟨by decide, by decide, parse_text points (by decide)⟩

end Descent.Example.Declarations
