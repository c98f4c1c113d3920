/-
This file resolves the dot segments of a path. A segment of one dot stands for where it is, one
of two dots takes back the segment before it, and empty segments are dropped, so the result never
climbs above the root. It ends in a slash exactly where the path named a directory.
-/

import WebFetch.Cut

namespace WebFetch.Path

/-- Takes the next segment of a path, where the segments kept so far are given newest first. -/
def push (kept : List (List Char)) (segment : List Char) : List (List Char) :=
  if segment = [] ∨ segment = ['.'] then kept
  else if segment = ['.', '.'] then kept.tail
  else segment :: kept

/-- The segments that remain of a path. -/
def resolve (path : List Char) : List (List Char) :=
  ((split ['/'] path).foldl push []).reverse

/-- Whether a path names a directory: its last segment is empty or made of dots. -/
def namesDirectory (path : List Char) : Bool :=
  ['/'].isSuffixOf path || ['/', '.'].isSuffixOf path || ['/', '.', '.'].isSuffixOf path

/-- Segments with a slash before each. The root is written as one slash. -/
def join (segments : List (List Char)) : List Char :=
  match segments with
  | [] => ['/']
  | segments => segments.flatMap ('/' :: ·)

/-- The absolute path without dot segments and empty segments. -/
def normalize (path : List Char) : List Char :=
  let segments := resolve path
  if namesDirectory path ∧ segments ≠ [] then join segments ++ ['/'] else join segments

end WebFetch.Path
