import Codemap.Settings.Basic

namespace Codemap

/-!
# The reference of the tools

The tools that can be called are described to their callers in a text of its own.  It
ends with the places that the settings name.
-/

namespace Bundle

/-- What can be asked of the tools. -/
def toolLines : List String := [
  "# Available Tools",
  "",
  "## 1. fetch-context",
  "**Purpose:** Searches configured directories for the given terms and returns a",
  "markdown bundle describing the matching files, their classes, methods and",
  "functions, and the files that import them.",
  "",
  "**Parameters:**",
  "- **search_terms** (required, list): Terms matched case-insensitively against",
  "  configured directory names and their immediate subdirectories",
  "  - Example: [\x22auth\x22, \x22user\x22, \x22login\x22]",
  "- **globs** (optional, list): File patterns within matched directories",
  "  - Example: [\x22**/*.ts\x22, \x22!**/*.test.ts\x22]",
  "- **regex** (optional, list): Content patterns searched within the glob matches (every",
  "  file when no globs are given). Results are the union of glob and regex matches,",
  "  so a regex adds files rather than filtering them",
  "  - Example: [\x22class.*Controller\x22, \x22TODO|FIXME\x22]",
  "- **reference_depth** (optional, int): How many levels of importers to follow",
  "  - -1 follows imports until nothing new is found; 0 skips reference tracking",
  "",
  "## 2. update-config",
  "**Purpose:** Reads and edits the localctx.yml configuration file.",
  "",
  "**Parameters:**",
  "- **operation** (required): One of get, set, delete, add, remove",
  "- **key** (optional): Dot-separated path, e.g. \x22cache_dir\x22 or \x22searchable_directories.0\x22",
  "- **value** (optional): Value for \x22set\x22",
  "- **array_item** (optional): Item for \x22add\x22/\x22remove\x22",
  "",
  "## 3. list-tools",
  "**Purpose:** Shows this reference.",
  "",
  "**Configuration:**"]

/-- A line about a path. -/
def pathLine (label : String) (path : Path) : Text :=
  "- ".toList ++ label.toList ++ ": ".toList ++ path.text ++ ['\n']

/-- The reference of the tools under some settings. -/
def reference (settings : Settings) : Text :=
  toolLines.flatMap (fun line => line.toList ++ ['\n']) ++
    pathLine "Config file" settings.file ++
    pathLine "Base repository path" settings.base ++
    pathLine "Cache directory" settings.cacheDirectory

end Bundle
end Codemap
