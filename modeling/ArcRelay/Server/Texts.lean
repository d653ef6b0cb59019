/-
Module: ArcRelay.Server.Texts
Purpose: The texts of snapshots and events: replaced control characters, cut texts, and the lines
  an action output snapshot keeps.
Trusted boundary: none
-/
import ArcRelay.Server.EventSubscriptions

namespace ArcRelay

/-- The `while` loop of `truncate_utf8` and of `RemoteFileResponse::failure` from a position, as
far as it gets in `rounds` rounds. -/
def boundarySearch (chars : List Char) : Nat → Nat → Option Nat
  | 0, _ => none
  | rounds + 1, position =>
      if isCharBoundary chars position then some position
      else boundarySearch chars rounds (position - 1)

/-- `truncate_utf8`, or the cut of `RemoteFileResponse::failure`, as it runs: `none` if the loop is
not done after `rounds` rounds or `String::truncate` panics. -/
def runTruncateUtf8 (rounds : Nat) (value : String) (maximum : Nat) : Option String :=
  if value.utf8ByteSize ≤ maximum then some value
  else (boundarySearch value.toList rounds maximum).bind (stringTruncate value)

/-- The character a control character is replaced by, or the character itself. -/
def replaceControl (c : Char) : Char := if charIsControl c then ' ' else c

def sanitizeText (value : String) (maximum : Nat) : String :=
  truncateUtf8 (String.ofList (value.toList.map replaceControl)) maximum

/-! ### Action output -/

namespace Subscriptions

/-- `MAX_ACTION_OUTPUT_LINES`. -/
def maxActionOutputLines : Nat := 500

/-- `MAX_ACTION_OUTPUT_SNAPSHOT_BYTES`. -/
def maxActionOutputSnapshotBytes : Nat := 512 * 1024

/-- The loop of `bounded_action_output` over the lines that are left, the last one first. -/
def selectLines : List String → List String → Nat → List String
  | [], selected, _ => selected
  | line :: rest, selected, total =>
      if selected.length ≥ maxActionOutputLines then selected
      else
        let line := truncateUtf8 line maxActionOutputLineBytes
        if saturatingAdd total line.utf8ByteSize > maxActionOutputSnapshotBytes then selected
        else selectLines rest (line :: selected) (total + line.utf8ByteSize)

def boundedActionOutput (lines : List String) : List String := selectLines lines.reverse [] 0

end Subscriptions

end ArcRelay
