import TtpConformance.Status.Address
import TtpConformance.Text.Lines

/-!
# The tag table

The module lists its connections in a table meant for people. A row shows three sequence numbers
(own, peer transmit, peer receive) in right-aligned columns, the peer's address, and the marker
`OP` while the connection is open. A column is at least seven characters wide and two spaces from
the one before it; wider numbers push it out.

Rows are found by their columns alone: a run of three adjacent columns is a triple, and a line may
have several. The last one, nearest to the address, is the row's own triple.

## Main definitions

* `SeqTriple`, `TagRecord`, `TagTable` — the table as data.
* `sequenceWindows` — the triples of a line.
* `TagTable.parse` — the table of a text.
* `TagTable.rowsOf`, `TagTable.hasOpen` — what it says about a peer.
-/

namespace TtpConformance

/-- Three sequence numbers of a connection. -/
structure SeqTriple where
  /-- The own sequence number. -/
  own : UInt64
  /-- The peer's transmit number. -/
  peerTx : UInt64
  /-- The peer's receive number. -/
  peerRx : UInt64
  deriving DecidableEq, Repr

/-- Three numbers in parentheses. -/
def SeqTriple.text (t : SeqTriple) : String :=
  "(" ++ Text.decimal t.own.toNat ++ ", " ++ Text.decimal t.peerTx.toNat ++ ", " ++
    Text.decimal t.peerRx.toNat ++ ")"

/-- A row of the tag table. -/
structure TagRecord where
  /-- The triple nearest to the address. -/
  triple : SeqTriple
  /-- The peer's address in lower case, if the row shows one. -/
  address : Option (List Char)
  /-- Whether the connection is open. -/
  isOpen : Bool
  /-- All triples of the row, in its order. -/
  windows : List SeqTriple
  deriving DecidableEq, Repr

namespace TagRecord

/-- Whether some triple of the row is the given one. -/
def shows (r : TagRecord) (triple : SeqTriple) : Bool := r.windows.contains triple

/-- Whether the row's address ends with a fragment. -/
def isOf (fragment : List Char) (r : TagRecord) : Bool :=
  match r.address with
  | some address => Status.addressMatches address fragment
  | none => false

end TagRecord

/-- The least width of a column. -/
def columnWidth : Nat := 7

/-- The spaces between a column and what stands before it. -/
def columnGap : Nat := 2

/-- The marker of an open connection. -/
def openMarker : List Char := ['O', 'P']

/-- A word of a line, with the number of spaces before it. -/
structure SpacedWord where
  spaces : Nat
  word : List Char
  deriving DecidableEq, Repr

/-- The words of a line and the spaces before each, given the spaces that came before it. -/
def spacedWordsFrom (spaces : Nat) (cs : List Char) : List SpacedWord :=
  match cs with
  | [] => []
  | ' ' :: rest => spacedWordsFrom (spaces + 1) rest
  | c :: rest =>
    ⟨spaces, c :: rest.takeWhile (· != ' ')⟩ :: spacedWordsFrom 0 (rest.dropWhile (· != ' '))
termination_by cs.length
decreasing_by
  · simp
  · have := (List.dropWhile_sublist (fun c : Char => c != ' ') (l := rest)).length_le
    simp only [List.length_cons]
    omega

/-- The words of a line, with the spaces before each. -/
def spacedWords (line : List Char) : List SpacedWord := spacedWordsFrom 0 line

/-- The number of a column: digits alone, which with `padding` spaces fill the least width. -/
def columnValue? (padding : Nat) (word : List Char) : Option UInt64 :=
  if columnWidth ≤ padding + word.length ∧ word.all Text.isDigit then
    (Text.readUInt64 word).toOption
  else none

/-- The number of a word that is a column. The spaces of the gap are no padding, except in front
of a line. -/
def SpacedWord.column? (isFirst : Bool) (w : SpacedWord) : Option UInt64 :=
  if isFirst then columnValue? w.spaces w.word
  else if columnGap ≤ w.spaces then columnValue? (w.spaces - columnGap) w.word
  else none

/-- For each word of a line, its number if it is a column. -/
def columns (line : List Char) : List (Option UInt64) :=
  match spacedWords line with
  | [] => []
  | first :: rest => first.column? true :: rest.map (·.column? false)

/-- The triples of three adjacent columns. -/
def tripleRuns : List (Option UInt64) → List SeqTriple
  | some a :: some b :: some c :: rest => ⟨a, b, c⟩ :: tripleRuns (some b :: some c :: rest)
  | _ :: rest => tripleRuns rest
  | [] => []

/-- The triples of a line. -/
def sequenceWindows (line : List Char) : List SeqTriple := tripleRuns (columns line)

/-- Whether a line has the marker of an open connection. -/
def showsOpen (line : List Char) : Bool := (Text.words line).any openMarker.isPrefixOf

/-- The tag table. -/
structure TagTable where
  /-- The rows with sequence numbers, in order. -/
  records : List TagRecord := []
  /-- The addresses of open rows without sequence numbers, in order. -/
  openAddresses : List (List Char) := []
  deriving DecidableEq, Repr

namespace TagTable

/-- What a line says: a row with sequence numbers, or the address of an open row without. -/
def parseLine (line : List Char) : TagTable :=
  let address := Status.findAddress? line
  let isOpen := showsOpen line
  let windows := sequenceWindows line
  match windows.getLast? with
  | some triple => { records := [{ triple, address, isOpen, windows }] }
  | none => { openAddresses := if isOpen then address.toList else [] }

/-- Two tables, one below the other. -/
def append (a b : TagTable) : TagTable where
  records := a.records ++ b.records
  openAddresses := a.openAddresses ++ b.openAddresses

/-- The table of a text. -/
def parse (text : String) : TagTable :=
  ((Text.lines text.toList).map parseLine).foldr append {}

/-- The rows of the peer whose address ends with a fragment. -/
def rowsOf (t : TagTable) (fragment : String) : List TagRecord :=
  t.records.filter (·.isOf fragment.toList)

/-- Whether the table lists an open connection to a peer. -/
def hasOpen (t : TagTable) (fragment : String) : Bool :=
  (t.rowsOf fragment).any (·.isOpen) ||
    t.openAddresses.any (Status.addressMatches · fragment.toList)

end TagTable

end TtpConformance
