-- Media types by the extension of a file name.
import IsoServer.FileSystem.Walk
import IsoServer.Text.Caseless
import IsoServer.Text.Utf8

namespace IsoServer.MediaType

/-- The type of a file whose extension says nothing. -/
def unknown : String := "application/octet-stream"

/-- Media types with their extensions. -/
def table : List (String × List String) := [
  ("application/atom+xml", ["atom"]),
  ("application/epub+zip", ["epub"]),
  ("application/font-sfnt", ["otf"]),
  ("application/font-woff", ["woff"]),
  ("application/gzip", ["gz"]),
  ("application/java-archive", ["jar"]),
  ("application/javascript", ["mjs"]),
  ("application/json", ["json"]),
  ("application/manifest+json", ["webmanifest"]),
  ("application/msword", ["doc"]),
  ("application/pdf", ["pdf"]),
  ("application/rss+xml", ["rss"]),
  ("application/rtf", ["rtf"]),
  ("application/vnd.android.package-archive", ["apk"]),
  ("application/vnd.ms-excel", ["xls"]),
  ("application/vnd.ms-fontobject", ["eot"]),
  ("application/vnd.ms-powerpoint", ["ppt"]),
  ("application/vnd.openxmlformats-officedocument.spreadsheetml.sheet", ["xlsx"]),
  ("application/vnd.openxmlformats-officedocument.wordprocessingml.document", ["docx"]),
  ("application/wasm", ["wasm"]),
  ("application/x-7z-compressed", ["7z"]),
  ("application/x-bzip2", ["bz2"]),
  ("application/x-compressed", ["tgz"]),
  ("application/x-httpd-php", ["php"]),
  ("application/x-ms-manifest", ["manifest"]),
  ("application/x-msdownload", ["bat", "dll"]),
  ("application/x-sh", ["sh"]),
  ("application/x-shockwave-flash", ["swf"]),
  ("application/x-sql", ["sql"]),
  ("application/x-tar", ["tar"]),
  ("application/xhtml+xml", ["xhtml"]),
  ("application/zip", ["zip"]),
  ("audio/aac", ["aac"]),
  ("audio/flac", ["flac"]),
  ("audio/m4a", ["m4a"]),
  ("audio/mpeg", ["mp3"]),
  ("audio/ogg", ["ogg", "opus"]),
  ("audio/wav", ["wav"]),
  ("audio/x-mpegurl", ["m3u8"]),
  ("font/ttf", ["ttf"]),
  ("font/woff2", ["woff2"]),
  ("image/avif", ["avif"]),
  ("image/bmp", ["bmp"]),
  ("image/gif", ["gif"]),
  ("image/heic", ["heic"]),
  ("image/jpeg", ["jpeg", "jpg"]),
  ("image/jxl", ["jxl"]),
  ("image/png", ["png"]),
  ("image/svg+xml", ["svg"]),
  ("image/tiff", ["tiff"]),
  ("image/webp", ["webp"]),
  ("image/x-icon", ["ico"]),
  ("model/gltf+json", ["gltf"]),
  ("model/gltf-binary", ["glb"]),
  ("text/calendar", ["ics"]),
  ("text/css", ["css"]),
  ("text/csv", ["csv"]),
  ("text/html", ["htm", "html"]),
  ("text/javascript", ["js", "jsx"]),
  ("text/markdown", ["md"]),
  ("text/plain", ["c", "conf", "cpp", "h", "ini", "log", "map", "py", "txt"]),
  ("text/x-rust", ["rs"]),
  ("text/x-toml", ["toml"]),
  ("text/x-yaml", ["yaml", "yml"]),
  ("text/xml", ["xml"]),
  ("video/mp4", ["mp4"]),
  ("video/mpeg", ["mpg"]),
  ("video/quicktime", ["mov"]),
  ("video/vnd.dlna.mpeg-tts", ["ts"]),
  ("video/webm", ["webm"]),
  ("video/x-matroska", ["mkv"]),
  ("video/x-msvideo", ["avi"])]

/-- The media type of an extension; extensions are told apart without case. -/
def ofExtension? (ext : String) : Option String :=
  (table.find? fun row => row.2.any fun e => Text.isCaseOf e ext).map (·.1)

/-- The extension of a file name: what stands behind its last dot, if anything stands before
it. -/
def extension? (name : Bytes) : Option Bytes :=
  match (Bytes.splitOn 0x2E name).reverse with
  | ext :: before => if before.all (·.isEmpty) && before.length < 2 then none else some ext
  | [] => none

/-- The last name of a path, unless it leads upwards. -/
def fileName? (path : Bytes) : Option Bytes :=
  match (FileSystem.plainNames path).getLast? with
  | some name => if name == FileSystem.dotDot then none else some name
  | none => none

/-- The media type of the file at a path. -/
def ofPath (path : Bytes) : String :=
  (((fileName? path).bind extension?).bind Utf8.decode?).bind ofExtension? |>.getD unknown

end IsoServer.MediaType
