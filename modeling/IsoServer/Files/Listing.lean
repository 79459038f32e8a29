-- The page that shows a directory.
import IsoServer.Files.Entry
import IsoServer.Text.Markup

namespace IsoServer.Listing

/-- One row of the page. -/
def row (e : Entry) : String :=
  "<li><a href=\"" ++ Markup.escape e.link ++ "\">" ++ Markup.escape e.displayName ++ "</a></li>\n"

/-- The page for a directory: its path as title and as heading, and one row per entry. -/
def render (displayPath : String) (entries : List Entry) : String :=
  let title := "Directory listing for " ++ Markup.escape displayPath
  "<!DOCTYPE HTML>\n<html lang=\"en\">\n<head>\n<meta charset=\"utf-8\">\n<title>" ++ title ++
    "</title>\n</head>\n<body>\n<h1>" ++ title ++ "</h1>\n<hr>\n<ul>\n" ++
    String.join (entries.map row) ++ "</ul>\n<hr>\n</body>\n</html>\n"

end IsoServer.Listing
