import Rsx.Pattern.Tree
import Rsx.Text.CaseFold
import Rsx.Text.Letter

set_option autoImplicit false

namespace Rsx.Pattern

open Rsx.Text (Category)

abbrev CharSet := Text.Ranges

namespace CharSet

def added : CharSet := .read (
    "88f c5c cdc 1acf-1add 1ae0-1aeb 20c1 2b96 a7ce-a7cf a7d2 a7d4 a7f1 fbc3-fbd2 fd90-fd91 "
    ++ "fdc8-fdce 10940-10959 10ec5-10ec7 10ed0-10ed8 10efa-10efb 11b60-11b67 11db0-11ddb "
    ++ "11de0-11de9 16ea0-16eb8 16ebb-16ed3 16ff2-16ff6 187f8-187ff 18d09-18d1e 18d80-18df2 "
    ++ "1ccfa-1ccfc 1ceba-1ced0 1cee0-1cef0 1e6c0-1e6de 1e6e0-1e6f5 1e6fe-1e6ff 1f6d8 1f777-1f77a "
    ++ "1f8d0-1f8d8 1fa54-1fa57 1fa8a 1fa8e 1fac8 1facd 1faea 1faef 1fbfa 2b73a-2b73f 2cea2-2cead "
    ++ "323b0-33479")

def recased : CharSet := .read "295"

def known (set : CharSet) : CharSet := Text.Ranges.minus set added

def ofCategories (p : Category → Bool) : CharSet :=
  let set := known (Category.ranges p)
  let set := if p .ll then Text.Ranges.plus set recased
    else if p .lo then Text.Ranges.minus set recased
    else set
  if p .cn then Text.Ranges.plus set added else set

def full : CharSet := [(0, Text.Ranges.lastCode)]

-- With everything that differs in case only: first what the characters fold to, then all that
-- folds to the same.
def caseless (set : CharSet) : CharSet :=
  let targets := Text.foldPairs.filterMap fun (source, target) =>
    if Text.Ranges.holds set source then some (target, target) else none
  let set := Text.Ranges.plus set targets
  let sources := Text.foldPairs.filterMap fun (source, target) =>
    if Text.Ranges.holds set target then some (source, source) else none
  Text.Ranges.plus set sources

def asciiDigit : CharSet := .read "30-39"

def asciiSpace : CharSet := .read "9-d 20"

def asciiWord : CharSet := .read "30-39 41-5a 5f 61-7a"

def digit : CharSet := ofCategories (· == .nd)

def space : CharSet := .read "9-d 20 85 a0 1680 2000-200a 2028-2029 202f 205f 3000"

def lowercase : CharSet := Text.Ranges.plus (ofCategories (· == .ll)) (known Text.moreLower)

def uppercase : CharSet := Text.Ranges.plus (ofCategories (· == .lu)) Text.moreUpper

def alphabetic : CharSet :=
  Text.Ranges.normal (ofCategories (fun k => k.isLetter || k == .nl)
    ++ known Text.moreAlphabetic ++ known Text.moreLower ++ Text.moreUpper)

def joiners : CharSet := .read "200c-200d"

def word : CharSet :=
  Text.Ranges.normal (alphabetic ++ ofCategories (fun k => k.isMark || k == .nd || k == .pc)
    ++ joiners)

end CharSet

def ShortClass.unicodeSet : ShortClass → CharSet
  | .digit => CharSet.digit
  | .space => CharSet.space
  | .word => CharSet.word

def ShortClass.asciiSet : ShortClass → CharSet
  | .digit => CharSet.asciiDigit
  | .space => CharSet.asciiSpace
  | .word => CharSet.asciiWord

def NamedClass.set : NamedClass → CharSet
  | alnum => .read "30-39 41-5a 61-7a"
  | alpha => .read "41-5a 61-7a"
  | ascii => .read "0-7f"
  | blank => .read "9 20"
  | cntrl => .read "0-1f 7f"
  | digit => .read "30-39"
  | graph => .read "21-7e"
  | lower => .read "61-7a"
  | print => .read "20-7e"
  | punct => .read "21-2f 3a-40 5b-60 7b-7e"
  | space => .read "9-d 20"
  | upper => .read "41-5a"
  | word => .read "30-39 41-5a 5f 61-7a"
  | xdigit => .read "30-39 41-46 61-66"

end Rsx.Pattern
