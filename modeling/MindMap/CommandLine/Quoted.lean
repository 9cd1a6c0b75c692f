import MindMap.CommandLine.Words

/-!
# Quoted words

How a text is written so that a command line reads it as one word. A text that is not empty and has no
blank, quote or backslash is written as it is; any other is put in single quotes, with a backslash before
each single quote and each backslash in it. This module only writes; reading is `words`.
-/

namespace MindMap.CommandLine

/-- Whether a text must be quoted because of this character. -/
def needsQuotes (c : Char) : Bool := Text.isBlank c || isQuote c || c = '\\'

/-- The contents of a single quotation. -/
def escapeSingle : List Char → List Char
  | [] => []
  | c :: rest => if c = '\'' || c = '\\' then '\\' :: c :: escapeSingle rest else c :: escapeSingle rest

/-- Write a text as one word of a command line. -/
def quoteWord (text : String) : String :=
  if !text.isEmpty && !text.toList.any needsQuotes then text
  else .ofList ('\'' :: (escapeSingle text.toList ++ ['\'']))

end MindMap.CommandLine
