import LSystem.Text.Quoted

/-! # Encodings

A text is written to a file or to the output as bytes. An encoding has bytes for some characters
only, and a text with any other one cannot be written. UTF-8 has them for all characters except lone
surrogates. -/

namespace LSystem

/-- For which characters there are bytes, and what is said of the others. -/
structure Encoding where
  name : String
  encodes : Char → Bool
  reason : String

/-- Why a text cannot be written: the first character without bytes, its place, and how many of them
come one after the other. -/
structure EncodingFault where
  encoding : String
  char : Char
  place : Nat
  count : Nat
  reason : String
  deriving DecidableEq, Repr

namespace Encoding

def utf8 : Encoding where
  name := "utf-8"
  encodes := fun c => !Text.isLone c
  reason := "surrogates not allowed"

/-- All characters of a text have bytes. -/
def Takes (out : Encoding) (s : Text) : Prop := ∀ c ∈ s, out.encodes c

def fault? (out : Encoding) (s : Text) : Option EncodingFault :=
  match s.dropWhile out.encodes with
  | [] => none
  | c :: rest =>
    some
      { encoding := out.name
        char := c
        place := (s.takeWhile out.encodes).length
        count := ((c :: rest).takeWhile fun d => !out.encodes d).length
        reason := out.reason }

/-- Writes texts one after the other: those before the first one that cannot be written, and why
this one cannot. -/
def print (out : Encoding) : List Text → List Text × Option EncodingFault
  | [] => ([], none)
  | s :: rest =>
    match out.fault? s with
    | some fault => ([], some fault)
    | none =>
      let (shown, fault?) := print out rest
      (s :: shown, fault?)

end Encoding

/-- The wording for characters that cannot be written. -/
def EncodingFault.message (fault : EncodingFault) : String :=
  if fault.count = 1 then
    s!"'{fault.encoding}' codec can't encode character '" ++
      String.ofList (Text.escaped fault.char) ++ s!"' in position {fault.place}: {fault.reason}"
  else
    s!"'{fault.encoding}' codec can't encode characters in position " ++
      s!"{fault.place}-{fault.place + fault.count - 1}: {fault.reason}"

end LSystem
