-- Text inside a page: the five characters that mean something to a browser are written
-- as entities.

namespace IsoServer.Markup

/-- One character of running text or of a quoted attribute. -/
def escapeChar (c : Char) : List Char :=
  if c == '&' then ['&', 'a', 'm', 'p', ';']
  else if c == '<' then ['&', 'l', 't', ';']
  else if c == '>' then ['&', 'g', 't', ';']
  else if c == '"' then ['&', 'q', 'u', 'o', 't', ';']
  else if c == '\'' then ['&', '#', 'x', '2', '7', ';']
  else [c]

/-- A text without markup of its own. -/
def escape (s : String) : String := String.ofList (s.toList.flatMap escapeChar)

end IsoServer.Markup
