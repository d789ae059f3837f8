import QueryClient.Json.Reader

/-!
# Why a text is no document

What is wrong with a text that cannot be read, and where. The parts in front of that place are read
as the reader reads them.
-/

namespace QueryClient.Json

/-- What is wrong with a text. -/
structure Complaint where
  reason : String
  /-- The text from the place on where it is wrong. -/
  rest : List Char
deriving Repr, DecidableEq

/-- What is wrong with a string behind its opening quote. A string that does not end is wrong where
it was opened. -/
def stringComplaint (opened : List Char) : List Char → Complaint
  | [] => ⟨"Unterminated string starting at", opened⟩
  | '\\' :: 'u' :: a :: b :: c :: d :: e :: rest =>
    if (unit? a b c d).isSome then stringComplaint opened (e :: rest)
    else ⟨"Invalid \\uXXXX escape", 'u' :: a :: b :: c :: d :: e :: rest⟩
  | '\\' :: 'u' :: rest => ⟨"Invalid \\uXXXX escape", 'u' :: rest⟩
  | '\\' :: c :: rest =>
    if (escaped? c).isSome then stringComplaint opened rest
    else ⟨"Invalid \\escape", '\\' :: c :: rest⟩
  | c :: rest =>
    if c < ' ' then ⟨"Invalid control character at", c :: rest⟩ else stringComplaint opened rest

mutual

/-- What is wrong with a text that begins with no document. -/
def documentComplaint (fuel : Nat) (cs : List Char) : Complaint :=
  match fuel with
  | 0 => ⟨"Expecting value", cs⟩
  | fuel + 1 =>
    match cs with
    | '"' :: rest => stringComplaint cs rest
    | '[' :: rest => elementsComplaint fuel (skipSpace rest)
    | '\x7b' :: rest => membersComplaint fuel (skipSpace rest)
    | _ => ⟨"Expecting value", cs⟩

/-- What is wrong with the elements of an array. -/
def elementsComplaint (fuel : Nat) (cs : List Char) : Complaint :=
  match fuel with
  | 0 => ⟨"Expecting value", cs⟩
  | fuel + 1 =>
    match document fuel cs with
    | none => documentComplaint fuel cs
    | some (_, rest) =>
      match skipSpace rest with
      | ',' :: rest => elementsComplaint fuel (skipSpace rest)
      | rest => ⟨"Expecting ',' delimiter", rest⟩

/-- What is wrong with the members of an object. -/
def membersComplaint (fuel : Nat) (cs : List Char) : Complaint :=
  match fuel with
  | 0 => ⟨"Expecting value", cs⟩
  | fuel + 1 =>
    match cs with
    | '"' :: rest =>
      match stringRest rest with
      | none => stringComplaint cs rest
      | some (_, rest) =>
        match skipSpace rest with
        | ':' :: rest =>
          match document fuel (skipSpace rest) with
          | none => documentComplaint fuel (skipSpace rest)
          | some (_, rest) =>
            match skipSpace rest with
            | ',' :: rest => membersComplaint fuel (skipSpace rest)
            | rest => ⟨"Expecting ',' delimiter", rest⟩
        | rest => ⟨"Expecting ':' delimiter", rest⟩
    | _ => ⟨"Expecting property name enclosed in double quotes", cs⟩

end

/-- What is wrong with a text that holds no document, or more than one. -/
def complaint (s : String) : Complaint :=
  match s.toList with
  | '\ufeff' :: rest => ⟨"Unexpected UTF-8 BOM (decode using utf-8-sig)", '\ufeff' :: rest⟩
  | cs =>
    let fuel := 2 * s.length + 2
    match document fuel (skipSpace cs) with
    | some (_, rest) => ⟨"Extra data", skipSpace rest⟩
    | none => documentComplaint fuel (skipSpace cs)

/-- Where the rest of a text begins: the line and the column, counted from one, and the number of
characters in front. -/
def placeIn (s : String) (rest : List Char) : Nat × Nat × Nat :=
  let before := s.toList.take (s.length - rest.length)
  (before.count '\n' + 1, (before.reverse.takeWhile (· != '\n')).length + 1, before.length)

/-- A complaint in words. -/
def Complaint.describe (c : Complaint) (s : String) : String :=
  let (line, column, index) := placeIn s c.rest
  c.reason ++ ": line " ++ toString line ++ " column " ++ toString column ++ " (char "
    ++ toString index ++ ")"

end QueryClient.Json
