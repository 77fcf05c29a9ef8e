import PageLayers.Page.Encode
import PageLayers.Json.Text
import PageLayers.Digest.Sha256

/-! What identifies a page: the digest of its canonical text. -/

namespace PageLayers.Page

/-- The compact text of a page; fields stand in order, so equal pages have one text. -/
def canonicalText (p : Page) : String := p.toJson.text

def checksum (p : Page) : String := Sha256.ofText p.canonicalText

/-- The text whose digest identifies a merged page together with the layers it comes from. -/
def fingerprintText (p : Page) (checksums : List String) : String :=
  p.canonicalText ++ ":" ++ ",".intercalate checksums

def fingerprint (p : Page) (checksums : List String) : String :=
  Sha256.ofText (p.fingerprintText checksums)

end PageLayers.Page
