import Outline.Json.Basic
import Outline.Text.Utf8

/-!
# Writing JSON

Values are written on one line with a space after each colon and comma. Control characters,
quotes and backslashes are escaped; characters beyond ASCII are written as they are, or escaped
too where only ASCII may be written.
-/
namespace Outline.Json

def hex4 (n : Nat) : Text :=
  [Utf8.hexChar (n / 4096 % 16), Utf8.hexChar (n / 256 % 16), Utf8.hexChar (n / 16 % 16),
    Utf8.hexChar (n % 16)]

def unitEscape (n : Nat) : Text := '\\' :: 'u' :: hex4 n

def writeChar (ascii : Bool) (c : Char) : Text :=
  match c with
  | '"' => ['\\', '"']
  | '\\' => ['\\', '\\']
  | '\n' => ['\\', 'n']
  | '\r' => ['\\', 'r']
  | '\t' => ['\\', 't']
  | '\x08' => ['\\', 'b']
  | '\x0c' => ['\\', 'f']
  | c =>
    let n := c.toNat
    if n < 32 then unitEscape n
    else if !ascii || n < 127 then [c]
    else if n < 0x10000 then unitEscape n
    else unitEscape (0xD800 + (n - 0x10000) / 1024) ++ unitEscape (0xDC00 + (n - 0x10000) % 1024)

def writeText (ascii : Bool) (t : Text) : Text :=
  '"' :: t.flatMap (writeChar ascii) ++ ['"']

mutual

def write (ascii : Bool) : Json → Text
  | .null => "null".toList
  | .bool true => "true".toList
  | .bool false => "false".toList
  | .int i => Text.ofInt i
  | .float negative x =>
    (if negative then ['-'] else []) ++ Text.ofNat x.mantissa ++ 'e' :: Text.ofInt x.exponent
  | .notANumber => "NaN".toList
  | .infinity negative => (if negative then ['-'] else []) ++ "Infinity".toList
  | .str t => writeText ascii t
  | .arr items => '[' :: writeItems ascii items ++ [']']
  | .obj fields => '\x7b' :: writeFields ascii fields ++ ['\x7d']

def writeItems (ascii : Bool) : List Json → Text
  | [] => []
  | [v] => write ascii v
  | v :: w :: vs => write ascii v ++ [',', ' '] ++ writeItems ascii (w :: vs)

def writeFields (ascii : Bool) : List (Text × Json) → Text
  | [] => []
  | [(k, v)] => writeText ascii k ++ [':', ' '] ++ write ascii v
  | (k, v) :: f :: fs =>
    writeText ascii k ++ [':', ' '] ++ write ascii v ++ [',', ' '] ++ writeFields ascii (f :: fs)

end

/-- A value with characters beyond ASCII as they are. -/
def render (j : Json) : Text := write false j

def renderAscii (j : Json) : Text := write true j

end Outline.Json
