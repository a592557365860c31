import Courier.Binary64.Shortest
import Courier.Text.Quoted

/-! Values as TOML text. A string takes the first notation that needs no escapes: basic, literal,
multi-line basic, multi-line literal; and basic with escapes if there is none. -/

namespace Courier.Toml

def longestRun (c : Char) (text : List Char) : Nat :=
  (text.foldl (fun (best, run) d => if d = c then (max best (run + 1), run + 1) else (best, 0))
    (0, 0)).1

/-- A character that only an escape can spell. -/
def needsEscape (c : Char) : Bool :=
  (c.toNat < 0x20 && c != '\t' && c != '\n') || c.toNat = 0x7F

def upperHex4 (n : Nat) : List Char := (Text.paddedHex 4 n).map Char.toUpper

/-- The inside of a basic string. A run of double quotes is broken by an escape once it is longer than
`quotes`; `lines` keeps the ends of lines. -/
def escapeBasic (quotes : Nat) (lines : Bool) : Nat → List Char → List Char
  | _, [] => []
  | run, c :: rest =>
    if c = '"' then
      if quotes < run + 1 then '\\' :: '"' :: escapeBasic quotes lines 0 rest
      else '"' :: escapeBasic quotes lines (run + 1) rest
    else
      let spelled :=
        if c = '\x08' then ['\\', 'b']
        else if c = '\t' then ['\\', 't']
        else if c = '\n' then if lines then ['\n'] else ['\\', 'n']
        else if c = '\x0c' then ['\\', 'f']
        else if c = '\r' then ['\\', 'r']
        else if c = '\\' then ['\\', '\\']
        else if needsEscape c then '\\' :: 'u' :: upperHex4 c.toNat
        else [c]
      spelled ++ escapeBasic quotes lines 0 rest

def writeString (s : String) : String :=
  let text := s.toList
  let controls := text.any needsEscape
  let backslash := text.any (· = '\\')
  let newline := text.any (· = '\n')
  let doubles := longestRun '"' text
  let singles := longestRun '\'' text
  let opening := if newline then ['\n'] else []
  let triple (c : Char) := List.replicate 3 c
  let basic := '"' :: (escapeBasic 0 false 0 text ++ ['"'])
  let multiBasic := triple '"' ++ opening ++ escapeBasic 2 true 0 text ++ triple '"'
  let chosen :=
    if !controls && !backslash && doubles = 0 && !newline then basic
    else if !controls && singles = 0 && !newline then '\'' :: (text ++ ['\''])
    else if !controls && !backslash && doubles ≤ 2 then multiBasic
    else if !controls && singles ≤ 2 then triple '\'' ++ opening ++ text ++ triple '\''
    else if newline then multiBasic else basic
  String.ofList chosen

/-- Doubles are positional and keep a point. -/
def doubleStyle : Binary64.Style := ⟨-400, 400, true, false, "nan", "inf"⟩

end Courier.Toml
