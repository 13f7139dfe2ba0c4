import BuildLog.Proofs.Text.Digits
import BuildLog.Scan

/-! What the messages about a line tell. A message names the line first, so its number and the rest
of the message can be told from its text. -/

namespace BuildLog

/-- The text of a message about a line. -/
def aboutLine (n : Nat) (what : String) : String :=
  "Line " ++ toString n ++ " " ++ what

/-- The number of the line that a message is about. -/
def LogMessage.lineNumber (m : LogMessage) : Nat :=
  Nat.ofDigitChars 10 ((m.content.toList.drop 5).takeWhile Char.isDigit) 0

/-- What a message tells behind the number of the line. -/
def LogMessage.remark (m : LogMessage) : List Char :=
  ((m.content.toList.drop 5).dropWhile Char.isDigit).drop 1

/-- Whether a message about a line starts with some words. -/
def LogMessage.tells (what : String) (m : LogMessage) : Bool :=
  what.toList.isPrefixOf m.remark

def notUtf8Message (n : Nat) : LogMessage :=
  ⟨.debug, "Line " ++ toString n ++ " is not valid UTF-8"⟩

theorem drop_aboutLine (n : Nat) (what : String) :
    (aboutLine n what).toList.drop 5 = Nat.toDigits 10 n ++ ' ' :: what.toList := by
  simp [aboutLine]

theorem remark_aboutLine (level : LogLevel) (n : Nat) (what : String) :
    LogMessage.remark ⟨level, aboutLine n what⟩ = what.toList := by
  rw [LogMessage.remark, drop_aboutLine,
    List.dropWhile_append_of_pos (isDigit_toDigits n)]
  rfl

theorem lineNumber_aboutLine (level : LogLevel) (n : Nat) (what : String) :
    LogMessage.lineNumber ⟨level, aboutLine n what⟩ = n := by
  have hdigits : (Nat.toDigits 10 n ++ ' ' :: what.toList).takeWhile Char.isDigit =
      Nat.toDigits 10 n := by
    rw [List.takeWhile_append_of_pos (isDigit_toDigits n)]
    simp
  rw [LogMessage.lineNumber, drop_aboutLine, hdigits, Nat.ofDigitChars_ten_toDigits]

theorem aboutLine_inj {n m : Nat} {what what' : String} (h : aboutLine n what = aboutLine m what') :
    n = m ∧ what = what' := by
  have hnumber := lineNumber_aboutLine .debug n what
  have hremark := remark_aboutLine .debug n what
  rw [h, lineNumber_aboutLine] at hnumber
  rw [h, remark_aboutLine] at hremark
  exact ⟨hnumber.symm, String.toList_inj.mp hremark.symm⟩

theorem notUtf8Message_eq (n : Nat) :
    notUtf8Message n = ⟨.debug, aboutLine n "is not valid UTF-8"⟩ := by
  simp [notUtf8Message, aboutLine, String.append_assoc]

theorem tells_aboutLine (what : String) (level : LogLevel) (n : Nat) (text : String) :
    LogMessage.tells what ⟨level, aboutLine n text⟩ = what.toList.isPrefixOf text.toList := by
  rw [LogMessage.tells, remark_aboutLine]

/-- What is said about an outcome. -/
def LineOutcome.remark? : LineOutcome → Option (LogLevel × String)
  | .blank => none
  | .malformed reason => some (.debug, "skipped: " ++ reason.message)
  | .filtered d => some (.debug, "filtered: " ++ d.commandLine.command)
  | .unrecognized => some (.trace, "not recognized")
  | .detected d => some (.debug, "detected: " ++ d.text)

namespace ScannedLine

theorem outcomeMessage?_eq (line : ScannedLine) : line.outcomeMessage? =
    line.outcome.remark?.map fun r => ⟨r.1, aboutLine line.number r.2⟩ := by
  rw [outcomeMessage?]
  cases line.outcome <;> rfl

theorem messages_eq (line : ScannedLine) : line.messages =
    (if line.isUtf8 then [] else [notUtf8Message line.number]) ++ line.outcomeMessage?.toList :=
  rfl

theorem notUtf8Message_notMem (line : ScannedLine) (n : Nat) :
    notUtf8Message n ∉ line.outcomeMessage?.toList := by
  rw [outcomeMessage?_eq, notUtf8Message_eq, Option.mem_toList]
  intro h
  obtain ⟨r, hr, he⟩ := Option.map_eq_some_iff.mp h
  obtain ⟨-, hwhat⟩ := aboutLine_inj (LogMessage.mk.inj he).2
  have hlist := congrArg String.toList hwhat
  cases ho : line.outcome <;> rw [ho] at hr <;> cases hr <;> simp at hlist

theorem notUtf8Message_mem_messages_iff {line : ScannedLine} {n : Nat} :
    notUtf8Message n ∈ line.messages ↔ line.number = n ∧ line.isUtf8 = false := by
  rw [messages_eq, List.mem_append, or_iff_left (line.notUtf8Message_notMem n)]
  cases h : line.isUtf8 with
  | true => simp
  | false =>
    constructor
    · intro hm
      rw [if_neg Bool.false_ne_true, List.mem_singleton, notUtf8Message_eq, notUtf8Message_eq] at hm
      exact ⟨(aboutLine_inj (LogMessage.mk.inj hm).2).1.symm, rfl⟩
    · intro hn
      rw [if_neg Bool.false_ne_true, hn.1]
      exact List.mem_singleton_self _

end ScannedLine

end BuildLog
