namespace Descent.Text

def padLeft (width : Nat) (t : List Char) : List Char :=
  List.replicate (width - t.length) ' ' ++ t

-- `ds` are digits from the last to the first; a comma follows every third one that has a successor.
def groupThrees : List Char → List Char
  | a :: b :: c :: d :: rest => a :: b :: c :: ',' :: groupThrees (d :: rest)
  | ds => ds

def grouped (n : Int) : String :=
  let digits := (groupThrees (Nat.toDigits 10 n.natAbs).reverse).reverse
  String.ofList (if n < 0 then '-' :: digits else digits)

end Descent.Text
