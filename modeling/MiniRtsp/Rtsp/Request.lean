import MiniRtsp.Lib.Occurrence
import MiniRtsp.Lib.Text

/-!
# Request texts

`rtsp/rtsp_request.c` and the C library calls the request handlers make: `strstr`, `strncmp`, and the number readers
`atoi` and `%d`. A text is the byte string before its NUL. A number that does not fit an `int` is delivered as the
library pleases: `IntReader` stands for that choice.
-/

namespace MiniRtsp.Rtsp

open Text Occurrence

/-- `strstr(haystack, needle) != NULL`. -/
def contains (haystack needle : Bytes) : Bool := (seek needle haystack).isSome

/-- `strncmp(text, word, strlen(word)) == 0`. -/
def startsWith (text word : Bytes) : Bool := word.isPrefixOf text

/-- `isspace`. -/
def isSpace (b : UInt8) : Bool := b = 0x20 || (0x09 ≤ b && b ≤ 0x0d)

/-- What a number reader delivers for a number that does not fit an `int`. -/
structure IntReader where
  overflow : Int → Int

def intMin : Int := -2147483648

/-- The number as the reader delivers it. -/
def IntReader.deliver (reader : IntReader) (v : Int) : Int :=
  if intMin ≤ v ∧ v ≤ 2147483647 then v else reader.overflow v

/-- The value of decimal digits. -/
def digitsValue (digits : Bytes) : Nat := digits.foldl (fun n b => n * 10 + digitVal b) 0

/-- Blanks, a sign and digits: the number and the text behind it; `none` without a digit. -/
def scanInt (text : Bytes) : Option (Int × Bytes) :=
  let text := text.dropWhile isSpace
  let (negative, text) :=
    match text with
    | 0x2d :: rest => (true, rest)
    | 0x2b :: rest => (false, rest)
    | rest => (false, rest)
  let digits := text.takeWhile isDigit
  if digits = [] then none
  else some (if negative then -(digitsValue digits : Int) else digitsValue digits, text.dropWhile isDigit)

/-- `atoi`. -/
def atoi (reader : IntReader) (text : Bytes) : Int :=
  match scanInt text with
  | some (v, _) => reader.deliver v
  | none => 0

/-- `rtsp_request_complete`. -/
def rtspRequestComplete (buffer : Bytes) : Bool :=
  if !contains buffer (ascii "CSeq:") then false
  else contains buffer (ascii "\r\n\r\n") || contains buffer (ascii "\n\n")

/-- `rtsp_request_get_cseq`. -/
def rtspRequestGetCseq (reader : IntReader) (request : Bytes) : Int :=
  match seek (ascii "CSeq:") request with
  | none => -1
  | some p => atoi reader (p.drop 5)

end MiniRtsp.Rtsp
