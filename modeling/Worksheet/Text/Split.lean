-- Cutting a text at each occurrence of a separator, and putting it together again; and the lines of
-- a text. One rule cuts at every line boundary of Unicode; another only changes the three common
-- line ends to a line feed.
namespace Worksheet.Text

/-! ## Pieces -/

/-- The pieces from here on, where `piece` (latest first) has been read of the first. -/
def splitAfter {α : Type} [DecidableEq α] (sep : α) (piece : List α) : List α → List (List α)
  | [] => [piece.reverse]
  | c :: rest =>
    if c = sep then piece.reverse :: splitAfter sep [] rest
    else splitAfter sep (c :: piece) rest

/-- There is always one piece more than there are separators. -/
def split {α : Type} [DecidableEq α] (sep : α) (cs : List α) : List (List α) :=
  splitAfter sep [] cs

theorem length_splitAfter {α : Type} [DecidableEq α] (sep : α) (piece cs : List α) :
    (splitAfter sep piece cs).length = cs.count sep + 1 := by
  induction cs generalizing piece with
  | nil => simp [splitAfter]
  | cons c rest ih =>
    unfold splitAfter
    split
    · next h => simp [ih, h]
    · next h => simp [ih, h]

theorem length_split {α : Type} [DecidableEq α] (sep : α) (cs : List α) :
    (split sep cs).length = cs.count sep + 1 :=
  length_splitAfter sep [] cs

def splitString (sep : Char) (s : String) : List String :=
  (split sep s.toList).map String.ofList

/-- What follows the last separator, or the whole text. -/
def afterLast (sep : Char) (cs : List Char) : List Char :=
  (cs.reverse.takeWhile (· ≠ sep)).reverse

/-- What stands before the last separator, or nothing. -/
def beforeLast (sep : Char) (cs : List Char) : List Char :=
  ((cs.reverse.dropWhile (· ≠ sep)).drop 1).reverse

def startsWith (start cs : List Char) : Bool := start.isPrefixOf cs

def endsWith (ending cs : List Char) : Bool := ending.reverse.isPrefixOf cs.reverse

/-! ## Lines -/

/-- Line feed, vertical tab, form feed, carriage return, the separators U+001C to U+001E, next
line, and the line and paragraph separators. -/
def isLineEnd (c : Char) : Bool :=
  c.toNat ∈ [0x0A, 0x0B, 0x0C, 0x0D, 0x1C, 0x1D, 0x1E, 0x85, 0x2028, 0x2029]

/-- A carriage return with a line feed after it is one boundary. -/
def dropLineEnd : List Char → List Char
  | '\r' :: '\n' :: rest => rest
  | _ :: rest => rest
  | [] => []

theorem length_dropLineEnd_cons (c : Char) (rest : List Char) :
    (dropLineEnd (c :: rest)).length ≤ rest.length := by
  unfold dropLineEnd
  split <;> simp_all

/-- The lines of a text without their boundaries; no line follows a final boundary. -/
def splitLines (cs : List Char) : List (List Char) :=
  match cs with
  | [] => []
  | c :: cs' =>
    let line := (c :: cs').takeWhile (fun d => !isLineEnd d)
    match _h : (c :: cs').dropWhile (fun d => !isLineEnd d) with
    | [] => [line]
    | e :: rest => line :: splitLines (dropLineEnd (e :: rest))
  termination_by cs.length
  decreasing_by
    have h1 := length_dropLineEnd_cons e rest
    have h2 : (e :: rest).length ≤ (c :: cs').length := by
      rw [← _h]
      exact (List.dropWhile_sublist _).length_le
    simp only [List.length_cons] at h2 ⊢
    omega

/-! ## Line ends made one -/

/-- Each carriage return, with or without a line feed after it, becomes a line feed. -/
def unifyLineEnds : List Char → List Char
  | '\r' :: '\n' :: rest => '\n' :: unifyLineEnds rest
  | '\r' :: rest => '\n' :: unifyLineEnds rest
  | c :: rest => c :: unifyLineEnds rest
  | [] => []

theorem unifyLineEnds_of_not_mem {cs : List Char} (h : '\r' ∉ cs) : unifyLineEnds cs = cs := by
  fun_induction unifyLineEnds cs with
  | case1 => exact absurd List.mem_cons_self h
  | case2 => exact absurd List.mem_cons_self h
  | case3 c rest hpair hreturn ih => rw [ih fun hmem => h (List.mem_cons_of_mem _ hmem)]
  | case4 => rfl

end Worksheet.Text
