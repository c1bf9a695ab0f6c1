import ScopeLexer.Language.Definition
import ScopeLexer.Style

/-! The languages that are always at hand. HTML hands the bodies of scripts and styles and the
attributes of tags over to other languages, and CSS its blocks of declarations. -/

namespace ScopeLexer.Language.Standard

/-- A target for a style. -/
def styled (s : Style) : Target := .scope s.name

/-- A rule whose whole match takes a style. -/
def whole (s : Style) (pattern : String) : Rule := ⟨pattern, .ofList [(0, styled s)]⟩

/-- An element whose body is in another language. -/
def embeddingElement (name language : String) : Rule :=
  ⟨"(?i)(<)(" ++ name ++ ")((?:\\s[^>]*)?)(>)([\\s\\S]*?)(</)(" ++ name ++ ")(\\s*>)",
    .ofList
      [(1, styled .htmlTagDelimiter), (2, styled .htmlElementName),
        (3, .language "html-attributes"), (4, styled .htmlTagDelimiter), (5, .language language),
        (6, styled .htmlTagDelimiter), (7, styled .htmlElementName),
        (8, styled .htmlTagDelimiter)]⟩

def html : Definition where
  id := "html"
  name := "HTML"
  aliases := .names ["htm", "xhtml"]
  rules :=
    [whole .htmlComment "<!--[\\s\\S]*?-->",
      embeddingElement "script" "javascript",
      embeddingElement "style" "css",
      ⟨"(</?)([a-zA-Z][\\w:-]*)((?:\\s[^<>]*?)?)(\\s*/?>)",
        .ofList
          [(1, styled .htmlTagDelimiter), (2, styled .htmlElementName),
            (3, .language "html-attributes"), (4, styled .htmlTagDelimiter)]⟩,
      whole .htmlEntity "&(?:\\w+|#\\d+|#x[0-9a-fA-F]+);"]

def htmlAttributes : Definition where
  id := "html-attributes"
  name := "HTML attributes"
  aliases := .names []
  rules :=
    [⟨"([\\w:-]+)(?:\\s*(=)\\s*(\"[^\"]*\"|'[^']*'|[^\\s\"'>]+))?",
      .ofList
        [(1, styled .htmlAttributeName), (2, styled .operator), (3, styled .htmlAttributeValue)]⟩]

/-- Comments between a slash with a star and a star with a slash. -/
def blockComment : Rule := whole .comment "/\\*[\\s\\S]*?\\*/"

def decimal : Rule := whole .number "\\b\\d+(?:\\.\\d+)?\\b"

/-- Any of some words, alone. -/
def anyWord (words : List String) : String := "\\b(?:" ++ "|".intercalate words ++ ")\\b"

def javascript : Definition where
  id := "javascript"
  name := "JavaScript"
  aliases := .names ["js", "jscript", "ecmascript"]
  rules :=
    [blockComment,
      whole .comment "//.*",
      whole .string "\"(?:[^\"\\\\\\n]|\\\\.)*\"|'(?:[^'\\\\\\n]|\\\\.)*'",
      whole .keyword (anyWord
        ["var", "let", "const", "function", "return", "if", "else", "for", "while", "do", "new",
          "this", "typeof", "true", "false", "null", "undefined"]),
      decimal,
      whole .operator "[-+*/%=<>!&|]+"]

def css : Definition where
  id := "css"
  name := "CSS"
  aliases := .names []
  rules :=
    [blockComment,
      ⟨"([^\\s\x7b\x7d][^\x7b\x7d]*?)\\s*(\\\x7b)([^\x7d]*)(\\\x7d)",
        .ofList [(1, styled .cssSelector), (3, .language "css-declarations")]⟩]

def cssDeclarations : Definition where
  id := "css-declarations"
  name := "CSS declarations"
  aliases := .names []
  rules :=
    [blockComment,
      ⟨"([\\w-]+)\\s*(:)\\s*([^;]+?)\\s*(?:;|$)",
        .ofList [(1, styled .cssPropertyName), (3, styled .cssPropertyValue)]⟩]

/-- Answers to every name that ends like its own. -/
def sql : Definition where
  id := "sql"
  name := "SQL"
  aliases := .predicate fun name => "sql".toList.isSuffixOf (name.toList.map Char.toLower)
  rules :=
    [whole .comment "--.*",
      blockComment,
      whole .string "'(?:[^']|'')*'",
      whole .sqlSystemFunction
        ("(?i)" ++ anyWord ["count", "sum", "avg", "min", "max", "coalesce"] ++ "(?=\\s*\\()"),
      whole .keyword ("(?i)" ++ anyWord
        ["select", "from", "where", "and", "or", "not", "null", "insert", "into", "values",
          "update", "set", "delete", "join", "on", "as", "order", "group", "by", "having",
          "limit"]),
      decimal]

def all : List Definition := [html, htmlAttributes, javascript, css, cssDeclarations, sql]

end ScopeLexer.Language.Standard
