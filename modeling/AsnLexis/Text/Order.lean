import AsnLexis.Text.Utf8

/-! The order of texts by their bytes. -/

namespace AsnLexis

/-- Whether a text is at or before another one, byte by byte; a beginning comes before the whole. -/
def Bytes.le : Bytes → Bytes → Bool
  | [], _ => true
  | _ :: _, [] => false
  | a :: as, b :: bs => if a == b then Bytes.le as bs else a < b

def Bytes.sort (texts : List Bytes) : List Bytes := texts.mergeSort Bytes.le

end AsnLexis
