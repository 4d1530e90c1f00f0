import Transcode.Text.Case
import Transcode.Text.Split

/-!
# Containers for soft subtitles

Soft subtitles can be put into a few container formats only. A container is told by the suffix of
a file name, or by the suffix alone, with or without its dot.

## Main definitions

* `suffixOf` — the suffix of the last component of a path;
* `supportsSoftSubtitles` — the path, or the suffix, is that of such a container.
-/

namespace Transcode

/-- The containers that hold soft subtitles. -/
def softSubtitleContainers : List String := ["mkv", "mov", "mp4"]

/-- The last component of a path; empty components and single dots do not count. -/
def lastComponent (path : List Char) : List Char :=
  ((Text.splitAt '/' path).filter fun part => !part.isEmpty && part != ['.']).getLastD []

/-- The suffix of a name from its last dot on, and empty when that dot is the first or the last
character. -/
def suffixOf (name : List Char) : List Char :=
  let suffix := (name.reverse.takeWhile (· != '.')).reverse
  if suffix.isEmpty || name.length ≤ suffix.length + 1 then [] else '.' :: suffix

/-- The suffix of the `lastComponent` of the path, or the whole path if that has none, is one of the
`softSubtitleContainers` once it is in lower case and without dots in front. -/
def supportsSoftSubtitles (path : String) : Bool :=
  let suffix := suffixOf (lastComponent path.toList)
  let suffix := if suffix.isEmpty then path.toList else suffix
  softSubtitleContainers.contains (Text.lower (String.ofList (suffix.dropWhile (· == '.'))))

end Transcode
