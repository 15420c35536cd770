namespace Nat64Gateway.CommandLine.LetterCase

-- The words compared with are ASCII: no mapping to other characters can make a difference.
def capitals : List (Char × String) := [
  ('\u00df', "SS"), ('\u0131', "I"), ('\u017f', "S"), ('\ufb00', "FF"), ('\ufb01', "FI"),
  ('\ufb02', "FL"), ('\ufb03', "FFI"), ('\ufb04', "FFL"), ('\ufb05', "ST"), ('\ufb06', "ST")]

def smalls : List (Char × String) := [('\u212a', "k")]

def mapped (special : List (Char × String)) (plain : Char → Char) (text : String) : String :=
  String.ofList <| text.toList.flatMap fun c =>
    match special.lookup c with
    | some letters => letters.toList
    | none => [plain c]

def capital (text : String) : String := mapped capitals Char.toUpper text
def small (text : String) : String := mapped smalls Char.toLower text

end Nat64Gateway.CommandLine.LetterCase
