import SensorGateway.Record.Json
import SensorGateway.Text.Utf8

/-!
# `SensorGateway.Record.Lines`: records kept line by line

A record is kept as one line of JSON: its source and the record itself.
The bytes of the line are handed to a writer in many pieces, the last of
which is the line feed, and then the writer is flushed. Every one of these
calls may fail; the first that does ends the attempt, and the record counts
as not kept. What the writer accepted by then stays accepted, the first
bytes of a piece whose rest it did not take included. They may end in the
middle of a character.
-/

set_option autoImplicit false

namespace SensorGateway

namespace Json

/-- The pieces in which characters are written inside quotes: those that
stand for themselves together, up to the next that is escaped, and each
escape by itself. `run` are those since the last escape. -/
def fragments (run : List Char) : List Char → List (List Char)
  | [] => ended run
  | c :: rest =>
    if escape c = [c] then fragments (run ++ [c]) rest
    else ended run ++ escape c :: fragments [] rest
where
  /-- No piece is empty. -/
  ended (run : List Char) : List (List Char) := if run = [] then [] else [run]

/-- The pieces in which a text is written in quotes. -/
def quotedPieces (text : String) : List (List Char) :=
  ['"'] :: fragments [] text.toList ++ [['"']]

/-- Groups of pieces with a comma between neighbours. -/
def separatedPieces : List (List (List Char)) → List (List Char)
  | [] => []
  | [last] => last
  | first :: rest => first ++ [','] :: separatedPieces rest

/-- The pieces in which a value is written. -/
def valuePieces : Value → List (List Char)
  | .bytes data =>
    ['['] :: separatedPieces (data.map fun byte => [(toString byte.toNat).toList]) ++ [[']']]
  | v => [value v]

/-- The pieces in which a key and its value are written. -/
def entryPieces (key : String) (pieces : List (List Char)) : List (List Char) :=
  quotedPieces key ++ [':'] :: pieces

/-- The pieces in which an object with the given members is written. -/
def objectPieces (members : List (List (List Char))) : List (List Char) :=
  ['\x7b'] :: separatedPieces members ++ [['\x7d']]

/-- The pieces in which a record's object is written. -/
def recordPieces (record : Record) : List (List Char) :=
  objectPieces (record.entries.map fun (key, v) => entryPieces key (valuePieces v))

/-- The pieces in which a line is written, its line feed included. -/
def linePieces (source : String) (record : Record) : List (List Char) :=
  objectPieces [entryPieces "source" (quotedPieces source),
    entryPieces "record" (recordPieces record)] ++ [['\n']]

/-- A line: the source and the record. -/
def line (source : String) (record : Record) : List Char :=
  object [entry "source" (quoted source), entry "record" (Json.record record)] ++ ['\n']

end Json

/-- Where lines go: the bytes that were accepted so far, how often the writer
was called, and which calls fail. Calls are counted from one on. -/
structure LineWriter where
  accepted : Bytes := []
  writes : Nat := 0
  flushes : Nat := 0
  writeFails : Nat → Bool := fun _ => false
  /-- How many bytes of its piece a failing write accepted before it failed. -/
  torn : Nat → Nat := fun _ => 0
  flushFails : Nat → Bool := fun _ => false

namespace LineWriter

/-- What was accepted, as a text, or nothing if it is none. -/
def output (writer : LineWriter) : List Char :=
  ((Text.ofUtf8? writer.accepted).getD "").toList

/-- Writes one piece. Says whether all of it was accepted. -/
def write (writer : LineWriter) (piece : Bytes) : Bool × LineWriter :=
  let called := { writer with writes := writer.writes + 1 }
  if writer.writeFails called.writes then
    (false, { called with accepted := writer.accepted ++ piece.take (writer.torn called.writes) })
  else (true, { called with accepted := writer.accepted ++ piece })

/-- Writes pieces up to the first that is not accepted. -/
def writeAll (writer : LineWriter) : List Bytes → Bool × LineWriter
  | [] => (true, writer)
  | piece :: rest =>
    match writer.write piece with
    | (true, writer) => writer.writeAll rest
    | (false, writer) => (false, writer)

/-- Flushes. Says whether that went well. -/
def flush (writer : LineWriter) : Bool × LineWriter :=
  let called := { writer with flushes := writer.flushes + 1 }
  (!writer.flushFails called.flushes, called)

/-- Keeps a record. Says whether that went well. -/
def store (writer : LineWriter) (source : String) (record : Record) : Bool × LineWriter :=
  match writer.writeAll ((Json.linePieces source record).map Text.encoded) with
  | (true, writer) => writer.flush
  | (false, writer) => (false, writer)

/-- Keeps records one after the other. -/
def storeAll (writer : LineWriter) : List (String × Record) → List Bool × LineWriter
  | [] => ([], writer)
  | (source, record) :: rest =>
    let (stored, writer) := writer.store source record
    let (others, writer) := writer.storeAll rest
    (stored :: others, writer)

end LineWriter

end SensorGateway
