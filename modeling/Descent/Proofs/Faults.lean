import Descent.ErrorValue
import Descent.Grammar.Build

namespace Descent

namespace Plain

-- A text that is not empty, as literals and names have to be.
def Literal : Plain → Prop
  | .text s => s ≠ ""
  | _ => False

-- What is gone through item by item: the characters of a text, the items of a list, the keys of a
-- dictionary.
def items? : Plain → Option (List Plain)
  | .text s => some (s.toList.map fun c => .text (String.singleton c))
  | .list vs => some vs
  | .dict entries => some (entries.map fun e => .text e.1)
  | _ => none

def literalFaults (f : Fault) : Plain → List Fault
  | .text s => if s.isEmpty then [f] else []
  | _ => [f]

def operandFaults : Plain → List Fault
  | .text s => if s.isEmpty then [.mistake (.emptyLiteral "symbol")] else []
  | v => [.mistake (.notAParser v.typeName)]

def characterFaults : Plain → List Fault
  | .text s => if s.length = 1 then [] else [.mistake (.invalidCharacter (.text s))]
  | v => [.mistake (.invalidCharacter v)]

def patternFaults [CharNames] (flags : Pattern.Flags) : Plain → List Fault
  | .text s => match Pattern.read flags s.toList with
    | .ok _ => []
    | .error e => [.unreadablePattern e]
  | .list vs => [.unhashable (Plain.list vs).typeName]
  | .dict entries => [.unhashable (Plain.dict entries).typeName]
  | _ => [.patternNotText]

variable {v : Plain} {f : Fault}

theorem literalFaults_eq_nil : v.literalFaults f = [] ↔ v.Literal := by
  cases v <;> simp [literalFaults, Literal]

theorem operandFaults_eq_nil : v.operandFaults = [] ↔ v.Literal := by
  cases v <;> simp [operandFaults, Literal]

theorem characterFaults_eq_nil : v.characterFaults = [] ↔ ∃ s : String, v = .text s ∧ s.length = 1 := by
  cases v <;> simp [characterFaults]

theorem patternFaults_eq_nil [CharNames] {flags : Pattern.Flags} :
    v.patternFaults flags = [] ↔ ∃ s p, v = .text s ∧ Pattern.read flags s.toList = .ok p := by
  cases v with
  | text s => cases h : Pattern.read flags s.toList <;> simp [patternFaults, h]
  | _ => simp [patternFaults]

theorem mistake_of_mem_operandFaults (h : f ∈ v.operandFaults) :
    ∃ m, f = .mistake m := by
  cases v with
  | text s =>
      obtain ⟨-, hf⟩ := List.mem_ite_nil_right.mp h
      exact ⟨_, List.mem_singleton.mp hf⟩
  | _ => exact ⟨_, List.mem_singleton.mp h⟩

theorem mistake_of_mem_literalFaults {m : Mistake}
    (h : f ∈ v.literalFaults (.mistake m)) : ∃ m, f = .mistake m := by
  cases v with
  | text s =>
      obtain ⟨-, hf⟩ := List.mem_ite_nil_right.mp h
      exact ⟨_, List.mem_singleton.mp hf⟩
  | _ => exact ⟨_, List.mem_singleton.mp h⟩

theorem mistake_of_mem_characterFaults (h : f ∈ v.characterFaults) :
    ∃ m, f = .mistake m := by
  cases v with
  | text s =>
      obtain ⟨-, hf⟩ := List.mem_ite_nil_left.mp h
      exact ⟨_, List.mem_singleton.mp hf⟩
  | _ => exact ⟨_, List.mem_singleton.mp h⟩

end Plain

namespace Expr

mutual

-- The nodes of an expression in the order of construction: operands from left to right, then the call
-- that they are operands of. What a continuation builds is left out.
def nodes : Expr → List Expr
  | .sequence items reducer => nodesOf items ++ [.sequence items reducer]
  | .sequenceOf items reducer => items.nodes ++ [.sequenceOf items reducer]
  | .choice alternatives => nodesOf alternatives ++ [.choice alternatives]
  | .either left right => left.nodes ++ right.nodes ++ [.either left right]
  | .unary op operand => operand.nodes ++ [.unary op operand]
  | .sepBy separator element => separator.nodes ++ element.nodes ++ [.sepBy separator element]
  | .label name operand => operand.nodes ++ [.label name operand]
  | .named name operand => operand.nodes ++ [.named name operand]
  | .bind first next => first.nodes ++ [.bind first next]
  | .asParser operand => operand.nodes ++ [.asParser operand]
  | e => [e]

def nodesOf : List Expr → List Expr
  | [] => []
  | e :: es => e.nodes ++ nodesOf es

end

-- What may stand where a parser is wanted.
def Eligible : Expr → Prop
  | .plain v => v.Literal
  | _ => True

-- All but plain values are parsers once they are built.
def IsPlain : Expr → Prop
  | .plain _ => True
  | _ => False

-- Callers' functions and what is looked up later are left out; a copy is taken of a parser, the bar
-- stands behind one, and ids mean something.
def Usual (lookUp : String → Except Fault Parser) : Expr → Prop
  | .bind _ _ | .lookUp _ _ | .custom _ _ => False
  | .named _ operand => ¬operand.IsPlain
  | .either left _ => ¬left.IsPlain
  | .ref id => ∃ p, lookUp id = .ok p
  | _ => True

def isForward (lookUp : String → Except Fault Parser) : Expr → Bool
  | .ref id => (lookUp id).toOption.any (·.isForward)
  | .asParser operand => operand.isForward lookUp
  | _ => false

-- The type that a value built of the expression has.
def typeName (lookUp : String → Except Fault Parser) : Expr → String
  | .plain v => v.typeName
  | e => if e.isForward lookUp then "Forward" else "Parser"

-- The type of the name that a parser built of the expression has, if that is no text. A name that counts
-- as false leaves the parser with the name of its function.
def nameType? (lookUp : String → Except Fault Parser) : Expr → Option String
  | .named name _ => if name.truthy then name.typeIfNoText else none
  | .ref id => (lookUp id).toOption.bind (·.name.typeIfNoText)
  | .asParser operand => operand.nameType? lookUp
  | _ => none

-- The expressions of which the node's call joins the names.
def joined : Expr → List Expr
  | .sequence items _ => items
  | .choice alternatives => alternatives
  | .either left right => [left, right]
  | .unary .parens operand => [.char "(", operand, .char ")"]
  | .sepBy separator element => [separator, element]
  | _ => []

-- A node that joins no names but texts.
def Joins (lookUp : String → Except Fault Parser) (e : Expr) : Prop :=
  ∀ operand ∈ e.joined, operand.nameType? lookUp = none

def operandFaults : Expr → List Fault
  | .plain v => v.operandFaults
  | _ => []

-- The fault of the first name that is no text, counted from a position on.
def nameFaults (lookUp : String → Except Fault Parser) : Nat → List Expr → List Fault
  | _, [] => []
  | i, e :: es => match e.nameType? lookUp with
    | some typeName => [.nameNotText i typeName]
    | none => nameFaults lookUp (i + 1) es

variable {lookUp : String → Except Fault Parser} {e : Expr} {es : List Expr} {i : Nat} {f : Fault}

theorem operandFaults_eq_nil : e.operandFaults = [] ↔ e.Eligible := by
  cases e with
  | plain v => exact Plain.operandFaults_eq_nil
  | _ => simp [operandFaults, Eligible]

theorem mistake_of_mem_operandFaults (h : f ∈ e.operandFaults) : ∃ m, f = .mistake m := by
  cases e with
  | plain v => exact Plain.mistake_of_mem_operandFaults h
  | _ => cases h

theorem nameFaults_eq_nil : nameFaults lookUp i es = [] ↔ ∀ e ∈ es, e.nameType? lookUp = none := by
  induction es generalizing i with
  | nil => simp [nameFaults]
  | cons e es ih =>
      rw [List.forall_mem_cons, ← ih (i := i + 1), nameFaults]
      cases e.nameType? lookUp <;> simp

-- Texts in the place of parsers become symbols, which are named by texts.
theorem nameFaults_plains (vs : List Plain) : nameFaults lookUp i (vs.map .plain) = [] := by
  refine nameFaults_eq_nil.mpr fun e he => ?_
  obtain ⟨v, -, rfl⟩ := List.mem_map.mp he
  rfl

theorem exists_first_unjoined {fs : List Fault} (h : nameFaults lookUp i es = f :: fs) :
    ∃ front operand back typeName, es = front ++ operand :: back ∧
      (∀ m ∈ front, m.nameType? lookUp = none) ∧ operand.nameType? lookUp = some typeName ∧
      f = .nameNotText (i + front.length) typeName := by
  induction es generalizing i with
  | nil => cases h
  | cons e es ih =>
      rw [nameFaults] at h
      cases hname : e.nameType? lookUp with
      | some typeName =>
          rw [hname] at h
          obtain ⟨rfl, -⟩ := List.cons.inj h
          exact ⟨[], e, es, typeName, rfl, by simp, hname, rfl⟩
      | none =>
          rw [hname] at h
          obtain ⟨front, operand, back, typeName, rfl, hfront, hoperand, rfl⟩ := ih h
          refine ⟨e :: front, operand, back, typeName, rfl, List.forall_mem_cons.mpr ⟨hname, hfront⟩,
            hoperand, ?_⟩
          rw [List.length_cons, Nat.add_right_comm, Nat.add_assoc]

-- What is not examined here: patterns are read elsewhere, and what cannot be gone through item by item is
-- refused by whoever goes through it.
def Delegates : Expr → Prop
  | .pattern _ _ _ => True
  | .sequenceOf items _ => ∀ v, items = .plain v → v.items? = none
  | .oneOf literals => literals.items? = none
  | _ => False

variable [CharNames]

-- A node with arguments of the kinds that its own call wants.
def Valid : Expr → Prop
  | .char c => ∃ s : String, c = .text s ∧ s.length = 1
  | .symbol literal => literal.Literal
  | .pattern _ source flags => ∃ s p, source = .text s ∧ Pattern.read flags s.toList = .ok p
  | .sequence items _ => ∀ e ∈ items, e.Eligible
  | .sequenceOf items _ => ∃ v vs, items = .plain v ∧ v.items? = some vs ∧ ∀ w ∈ vs, w.Literal
  | .choice alternatives => alternatives ≠ [] ∧ ∀ e ∈ alternatives, e.Eligible
  | .either _ right => right.Eligible
  | .unary _ operand | .asParser operand => operand.Eligible
  | .sepBy separator element => separator.Eligible ∧ element.Eligible
  | .oneOf literals => ∃ vs, literals.items? = some vs ∧ vs ≠ [] ∧ ∀ w ∈ vs, w.Literal
  | .label name operand => name.Literal ∧ operand.Eligible
  | _ => True

-- All that is wrong with the arguments of a node, in the order in which its call looks at them.
def ownFaults (lookUp : String → Except Fault Parser) : Expr → List Fault
  | .char c => c.characterFaults
  | .symbol literal => literal.literalFaults (.mistake (.emptyLiteral "symbol"))
  | .pattern _ source flags => source.patternFaults flags
  | .sequence items _ => items.flatMap operandFaults
  | .sequenceOf (.plain v) _ => match v.items? with
    | some vs => vs.flatMap Plain.operandFaults
    | none => [.notIterable v.typeName]
  | .sequenceOf e _ => [.notIterable (e.typeName lookUp)]
  | .choice alternatives =>
      if alternatives.isEmpty then [.mistake (.emptyAlternatives "choice")]
      else alternatives.flatMap operandFaults
  | .either _ right => right.operandFaults
  | .unary _ operand | .asParser operand => operand.operandFaults
  | .sepBy separator element => separator.operandFaults ++ element.operandFaults
  | .oneOf literals => match literals.items? with
    | some vs =>
        if vs.isEmpty then [.mistake (.emptyAlternatives "one_of")]
        else vs.flatMap (Plain.literalFaults (.mistake (.emptyLiteral "symbol")))
    | none => [.notIterable literals.typeName]
  | .label name operand => name.literalFaults (.mistake (.invalidLabel name)) ++ operand.operandFaults
  | _ => []

-- Names are joined when nothing is wrong with the arguments.
def nodeFaults (lookUp : String → Except Fault Parser) (e : Expr) : List Fault :=
  e.ownFaults lookUp ++ nameFaults lookUp 0 e.joined

def faults (lookUp : String → Except Fault Parser) (e : Expr) : List Fault :=
  e.nodes.flatMap (nodeFaults lookUp)

theorem ownFaults_eq_nil : e.ownFaults lookUp = [] ↔ e.Valid := by
  cases e with
  | char c => exact Plain.characterFaults_eq_nil
  | symbol literal => exact Plain.literalFaults_eq_nil
  | pattern use source flags => exact Plain.patternFaults_eq_nil
  | sequence items reducer => simp [ownFaults, Valid, operandFaults_eq_nil]
  | sequenceOf items reducer =>
      cases items with
      | plain v => cases h : v.items? <;> simp [ownFaults, Valid, h, Plain.operandFaults_eq_nil]
      | _ => simp [ownFaults, Valid]
  | choice alternatives =>
      cases alternatives <;> simp [ownFaults, Valid, operandFaults_eq_nil]
  | either left right => exact operandFaults_eq_nil
  | unary op operand => exact operandFaults_eq_nil
  | asParser operand => exact operandFaults_eq_nil
  | sepBy separator element => simp [ownFaults, Valid, operandFaults_eq_nil]
  | oneOf literals =>
      cases h : literals.items? with
      | none => simp [ownFaults, Valid, h]
      | some vs => cases vs <;> simp [ownFaults, Valid, h, Plain.literalFaults_eq_nil]
  | label name operand =>
      simp [ownFaults, Valid, operandFaults_eq_nil, Plain.literalFaults_eq_nil]
  | _ => simp [ownFaults, Valid]

-- Calls that join no names.
theorem nodeFaults_eq_ownFaults (h : e.joined = []) : e.nodeFaults lookUp = e.ownFaults lookUp := by
  rw [nodeFaults, h, nameFaults, List.append_nil]

theorem faults_leaf (h : e.nodes = [e]) (hjoined : e.joined = []) :
    e.faults lookUp = e.ownFaults lookUp := by
  rw [faults, h, List.flatMap_singleton, nodeFaults_eq_ownFaults hjoined]

-- The faults below a node, and those of the node.
theorem faults_node {below : List Expr} (h : e.nodes = below ++ [e]) :
    e.faults lookUp = below.flatMap (nodeFaults lookUp) ++ e.nodeFaults lookUp := by
  rw [faults, h, List.flatMap_append, List.flatMap_singleton]

theorem nodeFaults_eq_nil : e.nodeFaults lookUp = [] ↔ e.Valid ∧ e.Joins lookUp := by
  rw [nodeFaults, List.append_eq_nil_iff, ownFaults_eq_nil, nameFaults_eq_nil, Joins]

theorem faults_eq_nil : e.faults lookUp = [] ↔ ∀ n ∈ e.nodes, n.Valid ∧ n.Joins lookUp := by
  simp [faults, nodeFaults_eq_nil]

-- The first of all faults is the first one of the first node that has any.
theorem exists_first_faulty {ns : List Expr} {fs : List Fault}
    (h : ns.flatMap (nodeFaults lookUp) = f :: fs) :
    ∃ before n after rest, ns = before ++ n :: after ∧ (∀ m ∈ before, m.Valid ∧ m.Joins lookUp) ∧
      n.nodeFaults lookUp = f :: rest := by
  induction ns with
  | nil => cases h
  | cons n ns ih =>
      rw [List.flatMap_cons] at h
      cases hn : n.nodeFaults lookUp with
      | nil =>
          rw [hn, List.nil_append] at h
          obtain ⟨before, first, after, rest, rfl, hbefore, hfirst⟩ := ih h
          have hsound := nodeFaults_eq_nil.mp hn
          exact ⟨n :: before, first, after, rest, rfl, List.forall_mem_cons.mpr ⟨hsound, hbefore⟩, hfirst⟩
      | cons g rest =>
          rw [hn] at h
          obtain ⟨rfl, -⟩ := List.cons.inj h
          exact ⟨[], n, ns, rest, rfl, by simp, hn⟩

theorem mistake_of_mem_ownFaults (he : ¬e.Delegates) (h : f ∈ e.ownFaults lookUp) :
    ∃ m, f = .mistake m := by
  have hoperands : ∀ {es : List Expr}, f ∈ es.flatMap operandFaults → ∃ m, f = .mistake m := by
    intro es hes
    obtain ⟨operand, -, hoperand⟩ := List.mem_flatMap.mp hes
    exact mistake_of_mem_operandFaults hoperand
  cases e with
  | char c => exact Plain.mistake_of_mem_characterFaults h
  | symbol literal => exact Plain.mistake_of_mem_literalFaults h
  | pattern use source flags => exact absurd trivial he
  | sequence items reducer => exact hoperands h
  | sequenceOf items reducer =>
      cases items with
      | plain v =>
          rw [ownFaults] at h
          cases hv : v.items? with
          | none =>
              refine absurd (fun w hw => ?_) he
              cases hw
              exact hv
          | some vs =>
              rw [hv] at h
              obtain ⟨w, -, hw⟩ := List.mem_flatMap.mp h
              exact Plain.mistake_of_mem_operandFaults hw
      | _ => exact absurd (fun w hw => by cases hw) he
  | choice alternatives =>
      rw [ownFaults] at h
      split at h
      · exact ⟨_, List.mem_singleton.mp h⟩
      · exact hoperands h
  | either left right => exact mistake_of_mem_operandFaults h
  | unary op operand => exact mistake_of_mem_operandFaults h
  | asParser operand => exact mistake_of_mem_operandFaults h
  | sepBy separator element =>
      rcases List.mem_append.mp h with h | h
      · exact mistake_of_mem_operandFaults h
      · exact mistake_of_mem_operandFaults h
  | oneOf literals =>
      rw [ownFaults] at h
      cases hv : literals.items? with
      | none => exact absurd hv he
      | some vs =>
          simp only [hv] at h
          split at h
          · exact ⟨_, List.mem_singleton.mp h⟩
          · obtain ⟨w, -, hw⟩ := List.mem_flatMap.mp h
            exact Plain.mistake_of_mem_literalFaults hw
  | label name operand =>
      rcases List.mem_append.mp h with h | h
      · exact Plain.mistake_of_mem_literalFaults h
      · exact mistake_of_mem_operandFaults h
  | _ => cases h

-- The first fault of a node is about its arguments if these are not valid, and about names if they are.
theorem ownFault_of_nodeFaults {rest : List Fault} (h : e.nodeFaults lookUp = f :: rest)
    (hinvalid : ¬e.Valid) :
    ∃ others, e.ownFaults lookUp = f :: others := by
  rw [nodeFaults] at h
  cases hown : e.ownFaults lookUp with
  | nil => exact absurd (ownFaults_eq_nil.mp hown) hinvalid
  | cons g others =>
      rw [hown, List.cons_append] at h
      obtain ⟨rfl, -⟩ := List.cons.inj h
      exact ⟨others, rfl⟩

theorem unjoined_of_nodeFaults {rest : List Fault} (h : e.nodeFaults lookUp = f :: rest)
    (hvalid : e.Valid) :
    ∃ front operand back typeName, e.joined = front ++ operand :: back ∧
      (∀ m ∈ front, m.nameType? lookUp = none) ∧ operand.nameType? lookUp = some typeName ∧
      f = .nameNotText front.length typeName ∧ ErrorValue.ofFailure? (.fault f) = none := by
  rw [nodeFaults, ownFaults_eq_nil.mpr hvalid, List.nil_append] at h
  obtain ⟨front, operand, back, typeName, hjoined, hfront, hoperand, rfl⟩ := exists_first_unjoined h
  rw [Nat.zero_add]
  exact ⟨front, operand, back, typeName, hjoined, hfront, hoperand, rfl, rfl⟩

end Expr

end Descent
