import JobMatrix.Fault

/-! What can be wrong with a YAML text. -/

namespace JobMatrix.Yaml

inductive Problem where
  | unprintable (c : Char)
  | unexpectedCharacter (c : Char)
  | missingColon
  | entryNotAllowed
  | keyNotAllowed
  | valueNotAllowed
  | unopenedBracket
  | badDirective
  | badAnchor
  | badTag
  | badBlockHeader
  | badEscape
  | unclosedQuote
  | separatorInQuotes
  | duplicateDirective
  | incompatibleVersion
  | undefinedHandle (handle : String)
  | missingDocumentStart
  | missingContent
  | unclosedCollection
  | undefinedAlias (name : String)
  | duplicateAnchor (name : String)
  | severalDocuments
  | unknownTag (tag : String)
  | unexpectedKind
  | unhashableKey
  | badMerge
  | badBinary
deriving Repr

def Problem.message : Problem → String
  | unprintable _ => "special characters are not allowed"
  | unexpectedCharacter c =>
    "found character " ++ Text.literal (String.singleton c) ++ " that cannot start any token"
  | missingColon => "could not find expected ':'"
  | entryNotAllowed => "sequence entries are not allowed here"
  | keyNotAllowed => "mapping keys are not allowed here"
  | valueNotAllowed => "mapping values are not allowed here"
  | unopenedBracket => "found a closing bracket without an opening one"
  | badDirective => "found a malformed directive"
  | badAnchor => "expected alphabetic or numeric character in a name"
  | badTag => "found a malformed tag"
  | badBlockHeader => "expected chomping or indentation indicators"
  | badEscape => "found unknown escape character"
  | unclosedQuote => "found unexpected end of stream in a quoted scalar"
  | separatorInQuotes => "found unexpected document separator"
  | duplicateDirective => "found duplicate directive"
  | incompatibleVersion => "found incompatible document (version 1.* is required)"
  | undefinedHandle handle => "found undefined tag handle " ++ Text.literal handle
  | missingDocumentStart => "expected '<document start>'"
  | missingContent => "expected the node content"
  | unclosedCollection => "expected the end of a collection"
  | undefinedAlias name => "found undefined alias " ++ Text.literal name
  | duplicateAnchor name => "found duplicate anchor " ++ Text.literal name
  | severalDocuments => "expected a single document in the stream"
  | unknownTag tag => "could not determine a constructor for the tag " ++ Text.literal tag
  | unexpectedKind => "found a node of another kind than its tag asks for"
  | unhashableKey => "found unhashable key"
  | badMerge => "expected a mapping or list of mappings for merging"
  | badBinary => "failed to decode base64 data"

/-- Why a text gives no value: it is no document, or one of its scalars has no value. -/
inductive LoadError where
  | problem (p : Problem)
  | fault (f : Fault)

end JobMatrix.Yaml
