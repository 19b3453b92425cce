/-
Module: ClassOrder.Proofs.FrozenLines
Purpose: The lines of a text and of a file. A text is any bytes, and has exactly one split into
  lines: no line holds a line feed, and the lines with a line feed after each give the text back, up
  to a line feed at its end. A file is split when it is first asked for a line; every answer, then
  and later, comes from that split, whatever is done to the file.
Main exports: ended, flatMap_lines, lines_flatMap, eq_lines_iff, length_lines,
  CachedFile.contentAtFirstRead, CachedFile.answers_of_cached, CachedFile.answers_of_fresh,
  CachedFile.requests_see_one_exact_split
-/
import ClassOrder.Source
import Mathlib.Data.List.Basic

namespace ClassOrder

/-! ### The split of a text -/

/-- A text with a line feed at its end, unless it has one or is empty. -/
def ended (text : Bytes) : Bytes :=
  if text = [] ∨ text.getLast? = some lineFeed then text else text ++ [lineFeed]

theorem ended_cons (byte : UInt8) (rest : Bytes) :
    ended (byte :: rest) =
      if rest = [] ∧ byte ≠ lineFeed then [byte, lineFeed] else byte :: ended rest := by
  cases rest with
  | nil => by_cases isFeed : byte = lineFeed <;> simp [ended, isFeed]
  | cons next others =>
      by_cases isLast : (next :: others).getLast? = some lineFeed <;> simp [ended, isLast]

@[simp] theorem prependByte_lineFeed (split : List Bytes) :
    prependByte lineFeed split = [] :: split := by
  simp [prependByte]

@[simp] theorem prependByte_nil {byte : UInt8} (notFeed : byte ≠ lineFeed) :
    prependByte byte [] = [[byte]] := by
  simp [prependByte, notFeed]

@[simp] theorem prependByte_cons {byte : UInt8} (notFeed : byte ≠ lineFeed) (first : Bytes)
    (others : List Bytes) : prependByte byte (first :: others) = (byte :: first) :: others := by
  simp [prependByte, notFeed]

theorem flatMap_prependByte (byte : UInt8) (split : List Bytes) :
    (prependByte byte split).flatMap (· ++ [lineFeed]) =
      if split = [] ∧ byte ≠ lineFeed then [byte, lineFeed]
      else byte :: split.flatMap (· ++ [lineFeed]) := by
  by_cases isFeed : byte = lineFeed
  · simp [isFeed]
  · cases split <;> simp [isFeed]

theorem lines_cons (byte : UInt8) (rest : Bytes) :
    lines (byte :: rest) = prependByte byte (lines rest) :=
  rfl

theorem lines_eq_nil_iff (text : Bytes) : lines text = [] ↔ text = [] := by
  cases text with
  | nil => simp [lines]
  | cons byte rest =>
      rw [lines_cons]
      by_cases isFeed : byte = lineFeed
      · simp [isFeed]
      · cases lines rest <;> simp [isFeed]

/-- Splitting a text loses nothing but a line feed that is not there. -/
theorem flatMap_lines (text : Bytes) : (lines text).flatMap (· ++ [lineFeed]) = ended text := by
  induction text with
  | nil => rfl
  | cons byte rest inductionHypothesis =>
      rw [lines_cons, flatMap_prependByte, inductionHypothesis, ended_cons]
      simp only [lines_eq_nil_iff]

theorem lineFeed_notMem_lines (text : Bytes) : ∀ line ∈ lines text, lineFeed ∉ line := by
  induction text with
  | nil => simp [lines]
  | cons byte rest inductionHypothesis =>
      rw [lines_cons]
      by_cases isFeed : byte = lineFeed
      · simpa [isFeed] using inductionHypothesis
      · cases split : lines rest with
        | nil => simpa [isFeed] using Ne.symm isFeed
        | cons first others =>
            rw [split] at inductionHypothesis
            simpa [isFeed, Ne.symm isFeed] using inductionHypothesis

theorem foldr_prependByte_line {line : Bytes} (noFeed : lineFeed ∉ line) (split : List Bytes) :
    (line ++ [lineFeed]).foldr prependByte split = line :: split := by
  induction line with
  | nil => simp
  | cons byte rest inductionHypothesis =>
      obtain ⟨notFeed, restNoFeed⟩ := List.ne_and_not_mem_of_not_mem_cons noFeed
      rw [List.cons_append, List.foldr_cons, inductionHypothesis restNoFeed,
        prependByte_cons (Ne.symm notFeed)]

/-- Lines that are written one after the other are split into the same lines. -/
theorem lines_flatMap {split : List Bytes} (noFeeds : ∀ line ∈ split, lineFeed ∉ line) :
    lines (split.flatMap (· ++ [lineFeed])) = split := by
  induction split with
  | nil => rfl
  | cons line others inductionHypothesis =>
      obtain ⟨noFeed, othersNoFeeds⟩ := List.forall_mem_cons.mp noFeeds
      have rest : (others.flatMap (· ++ [lineFeed])).foldr prependByte [] = others :=
        inductionHypothesis othersNoFeeds
      rw [lines, List.flatMap_cons, List.foldr_append, rest, foldr_prependByte_line noFeed]

/-- The split is the only one: its lines hold no line feed, and together they are the text. -/
theorem eq_lines_iff (text : Bytes) (split : List Bytes) :
    split = lines text ↔
      (∀ line ∈ split, lineFeed ∉ line) ∧ split.flatMap (· ++ [lineFeed]) = ended text := by
  constructor
  · rintro rfl
    exact ⟨lineFeed_notMem_lines text, flatMap_lines text⟩
  · rintro ⟨noFeeds, sameText⟩
    calc split
        = lines (split.flatMap (· ++ [lineFeed])) := (lines_flatMap noFeeds).symm
      _ = lines ((lines text).flatMap (· ++ [lineFeed])) := by rw [sameText, flatMap_lines]
      _ = lines text := lines_flatMap (lineFeed_notMem_lines text)

theorem count_lineFeed_flatMap {split : List Bytes}
    (noFeeds : ∀ line ∈ split, lineFeed ∉ line) :
    (split.flatMap (· ++ [lineFeed])).count lineFeed = split.length := by
  induction split with
  | nil => rfl
  | cons line others inductionHypothesis =>
      obtain ⟨noFeed, othersNoFeeds⟩ := List.forall_mem_cons.mp noFeeds
      rw [List.flatMap_cons, List.count_append, inductionHypothesis othersNoFeeds,
        List.count_append, List.count_eq_zero.mpr noFeed, List.count_singleton_self,
        List.length_cons]
      omega

/-- There is a line for each line feed, and one more for a text that goes on after the last. -/
theorem length_lines (text : Bytes) :
    (lines text).length =
      text.count lineFeed + if text ≠ [] ∧ text.getLast? ≠ some lineFeed then 1 else 0 := by
  rw [← count_lineFeed_flatMap (lineFeed_notMem_lines text), flatMap_lines, ended]
  split
  · next isEnded => rw [if_neg (not_and_or.mpr (isEnded.imp not_not.mpr not_not.mpr)), Nat.add_zero]
  · next notEnded => rw [if_pos (not_or.mp notEnded), List.count_append, List.count_singleton_self]

/-- Bytes that encode no character are kept like all others. -/
example : lines [0x63, 0xE9, 0x0D, 0x0A, 0x0A, 0xFF] = [[0x63, 0xE9, 0x0D], [], [0xFF]] := by
  decide

/-! ### A file and its first request -/

namespace CachedFile

/-- An access that asks for a line. -/
def Access.isRead : Access → Bool
  | .read _ => true
  | .write _ => false

/-- What a file holds after accesses. Requests leave it alone. -/
def contentAfter (content : Option Bytes) : List Access → Option Bytes
  | [] => content
  | .read _ :: rest => contentAfter content rest
  | .write changed :: rest => contentAfter changed rest

/-- What a file holds when the first of the accesses asks for a line. -/
def contentAtFirstRead (content : Option Bytes) (accesses : List Access) : Option Bytes :=
  contentAfter content (accesses.takeWhile fun access => !access.isRead)

/-- What an access answers where the lines are known. -/
def Access.answerFrom (split : List Bytes) : Access → Answer
  | .read index => .line split[index.toNat]?
  | .write _ => .changed

theorem answers_read (file : CachedFile) (index : UInt32) (rest : List Access) :
    file.answers (.read index :: rest) =
      .line file.visibleLines[index.toNat]? ::
        ({ file with cache := some file.visibleLines } : CachedFile).answers rest :=
  rfl

theorem answers_write (file : CachedFile) (content : Option Bytes) (rest : List Access) :
    file.answers (.write content :: rest) =
      .changed :: (file.write content).answers rest :=
  rfl

/-- Once the lines are there they stay, and all answers come from them. -/
theorem answers_of_cached {file : CachedFile} {split : List Bytes}
    (cached : file.cache = some split) (accesses : List Access) :
    file.answers accesses = accesses.map (Access.answerFrom split) := by
  induction accesses generalizing file with
  | nil => rfl
  | cons next rest inductionHypothesis =>
      cases next with
      | read index =>
          have visible : file.visibleLines = split := by
            rw [visibleLines, cached, Option.getD_some]
          rw [answers_read, visible, inductionHypothesis rfl]
          rfl
      | write content =>
          have stillCached : (file.write content).cache = some split := cached
          rw [answers_write, inductionHypothesis stillCached]
          rfl

/-- The lines of a file, of which there are none while it is missing. -/
def linesOf (content : Option Bytes) : List Bytes :=
  match content with
  | none => []
  | some text => lines text

/-- A file that was not asked yet answers from what it holds when it is first asked. -/
theorem answers_of_fresh {file : CachedFile} (fresh : file.cache = none)
    (accesses : List Access) :
    file.answers accesses =
      accesses.map (Access.answerFrom (linesOf (contentAtFirstRead file.content accesses))) := by
  induction accesses generalizing file with
  | nil => rfl
  | cons next rest inductionHypothesis =>
      cases next with
      | read index =>
          have visible : file.visibleLines = linesOf file.content := by
            rw [visibleLines, fresh, Option.getD_none]
            cases file.content <;> rfl
          rw [answers_read, visible, answers_of_cached rfl]
          rfl
      | write content =>
          have stillFresh : (file.write content).cache = none := fresh
          rw [answers_write, inductionHypothesis stillFresh]
          rfl

/-! ### What a request hands back -/

/-- A request hands back whether there is such a line, and the text of the line, which is empty if
there is none. A change hands back nothing. -/
def Answer.handedBack? : Answer → Option (Bool × Bytes)
  | .line found => some (found.isSome, found.getD [])
  | .changed => none

/-- What an access has to hand back where the lines are known. -/
def Access.dueIn? (split : List Bytes) : Access → Option (Bool × Bytes)
  | .read index =>
      some (if isThere : index.toNat < split.length then (true, split[index.toNat])
        else (false, []))
  | .write _ => none

theorem handedBack?_answerFrom (split : List Bytes) (access : Access) :
    (access.answerFrom split).handedBack? = access.dueIn? split := by
  cases access with
  | read index =>
      by_cases isThere : index.toNat < split.length <;>
        simp [Access.answerFrom, Answer.handedBack?, Access.dueIn?, isThere]
  | write content => rfl

/-- Lines are an exact split of a text, and are fixed by the first request. A text is any bytes. Its
lines are those without a line feed that give it back when each is followed by one; their number is
the number of line feeds, and one more if the text goes on after the last. A text in memory, and a
file that others change, remove and make between requests, answer every request from the lines of
one text: that of the file is the one it holds at the first request, and none if it is missing
then. -/
theorem requests_see_one_exact_split :
    (∀ (text : Bytes) (split : List Bytes),
      split = lines text ↔
        (∀ line ∈ split, 0x0A ∉ line) ∧
          split.flatMap (fun line => line ++ [0x0A]) =
            if text = [] ∨ text.getLast? = some 0x0A then text else text ++ [0x0A]) ∧
    (∀ text : Bytes,
      (lines text).length =
        text.count 0x0A + if text ≠ [] ∧ text.getLast? ≠ some 0x0A then 1 else 0) ∧
    (∀ (source : Source) (accesses : List Access),
      ((ofSource source).answers accesses).map Answer.handedBack? =
        accesses.map (Access.dueIn? (lines source.text))) ∧
    ∀ (path : String) (content : Option Bytes) (accesses : List Access),
      let file : CachedFile := { path := path, content := content }
      let split : List Bytes :=
        match contentAtFirstRead content accesses with
        | none => []
        | some text => lines text
      (file.answers accesses).map Answer.handedBack? = accesses.map (Access.dueIn? split) := by
  refine ⟨eq_lines_iff, length_lines, ?_, ?_⟩
  · intro source accesses
    rw [answers_of_cached rfl, List.map_map]
    exact List.map_congr_left fun access _ => handedBack?_answerFrom _ access
  · intro path content accesses file split
    have fresh : file.cache = none := rfl
    rw [answers_of_fresh fresh, List.map_map]
    exact List.map_congr_left fun access _ => handedBack?_answerFrom _ access

/-- A file that is made after a request has failed stays without lines. -/
example :
    ({ path := "menu.dart", content := none } : CachedFile).answers
        [.read 0, .write (some (bytes "int up;\n")), .read 0] =
      [.line none, .changed, .line none] := by
  decide

end CachedFile

end ClassOrder
