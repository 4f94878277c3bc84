import AsnLexis.Text.Utf8

/-! The reserved words of ASN.1. They are case sensitive. -/

namespace AsnLexis

def keywords : List String := [
  "ABSENT", "ABSTRACT-SYNTAX", "ALL", "APPLICATION", "AUTOMATIC", "BEGIN", "BIT", "BMPString",
  "BOOLEAN", "BY", "CHARACTER", "CHOICE", "CLASS", "COMPONENT", "COMPONENTS", "CONSTRAINED",
  "CONTAINING", "DATE", "DATE-TIME", "DEFAULT", "DEFINITIONS", "DURATION", "EMBEDDED", "ENCODED",
  "ENCODING-CONTROL", "END", "ENUMERATED", "EXCEPT", "EXPLICIT", "EXPORTS", "EXTENSIBILITY",
  "EXTERNAL", "FALSE", "FROM", "GeneralString", "GeneralizedTime", "GraphicString", "IA5String",
  "IDENTIFIER", "IMPLICIT", "IMPLIED", "IMPORTS", "INCLUDES", "INSTANCE", "INSTRUCTIONS",
  "INTEGER", "INTERSECTION", "ISO646String", "MAX", "MIN", "MINUS-INFINITY", "NOT-A-NUMBER",
  "NULL", "NumericString", "OBJECT", "OCTET", "OF", "OID-IRI", "OPTIONAL", "ObjectDescriptor",
  "PATTERN", "PDV", "PLUS-INFINITY", "PRESENT", "PRIVATE", "PrintableString", "REAL",
  "RELATIVE-OID", "RELATIVE-OID-IRI", "SEQUENCE", "SET", "SETTINGS", "SIZE", "STRING", "SYNTAX",
  "T61String", "TAGS", "TIME", "TIME-OF-DAY", "TRUE", "TYPE-IDENTIFIER", "TeletexString", "UNION",
  "UNIQUE", "UNIVERSAL", "UTCTime", "UTF8String", "UniversalString", "VideotexString",
  "VisibleString", "WITH"]

def keywordTexts : List Bytes := keywords.map utf8

def isKeyword (text : Bytes) : Bool := keywordTexts.contains text

end AsnLexis
