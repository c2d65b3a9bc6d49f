import Stepwise.Text.Case
/-!
The risk of a shell command, judged by its text alone: the lower-case text is searched for the
patterns of two tables. In safe mode, that is at level `low`, commands of high risk are refused.
-/

namespace Stepwise

inductive RiskLevel where
  | low
  | medium
  | high
  deriving DecidableEq, Repr

namespace RiskLevel

def all : List RiskLevel := [low, medium, high]

def name : RiskLevel → String
  | low => "low"
  | medium => "medium"
  | high => "high"

def rank : RiskLevel → Nat
  | low => 0
  | medium => 1
  | high => 2

instance : LE RiskLevel := ⟨fun a b => a.rank ≤ b.rank⟩

instance (a b : RiskLevel) : Decidable (a ≤ b) := inferInstanceAs (Decidable (a.rank ≤ b.rank))

def ofName? (s : String) : Option RiskLevel := all.find? (·.name == s)

end RiskLevel

namespace Risk

def highPatterns : List String := [
  "rm -rf", "rm -fr", "rm -r ", "rm --recursive", "mkfs", "fdisk", "dd if=", "format c:",
  "> /dev/sd", "shred ", "wipefs", "shutdown", "reboot", "halt", "poweroff", "init 0", "init 6",
  ":()\x7b", "chmod -r 777 /", "del /f", "del /s", "rd /s", "rmdir /s", "drop database",
  "drop table"]

def mediumPatterns : List String := [
  "systemctl stop", "systemctl disable", "systemctl restart", "systemctl mask", "service ",
  "net stop", "sc stop", "kill ", "killall", "pkill", "taskkill", "iptables", "ip6tables", "nft ",
  "ufw ", "firewall-cmd", "netsh advfirewall", "chmod ", "chown "]

def occursIn (pattern : List Char) : List Char → Bool
  | [] => pattern.isEmpty
  | c :: rest => pattern.isPrefixOf (c :: rest) || occursIn pattern rest

def matchesAny (patterns : List String) (text : List Char) : Bool :=
  patterns.any fun p => occursIn p.toList text

def classifyChars (text : List Char) : RiskLevel :=
  if matchesAny highPatterns text then .high
  else if matchesAny mediumPatterns text then .medium
  else .low

def classify (command : String) : RiskLevel := classifyChars (Text.lowerChars command.toList)

def isBlocked (session command : RiskLevel) : Bool := session = .low ∧ command = .high

theorem isBlocked_iff {session command : RiskLevel} :
    isBlocked session command = true ↔ session = .low ∧ command = .high := by
  simp [isBlocked]

theorem occursIn_iff {pattern text : List Char} :
    occursIn pattern text = true ↔ ∃ before after, text = before ++ pattern ++ after := by
  induction text with
  | nil =>
    constructor
    · intro h
      have : pattern = [] := List.isEmpty_iff.1 h
      exact ⟨[], [], by simp [this]⟩
    · rintro ⟨before, after, h⟩
      have := h.symm
      simp only [List.append_eq_nil_iff] at this
      simp [occursIn, this.1.2]
  | cons c rest ih =>
    simp only [occursIn, Bool.or_eq_true, List.isPrefixOf_iff_prefix, ih]
    constructor
    · rintro (⟨after, h⟩ | ⟨before, after, h⟩)
      · exact ⟨[], after, by simpa using h.symm⟩
      · exact ⟨c :: before, after, by simp [h]⟩
    · rintro ⟨before, after, h⟩
      cases before with
      | nil => exact .inl ⟨after, by simpa using h.symm⟩
      | cons b before =>
        simp only [List.cons_append, List.cons.injEq] at h
        exact .inr ⟨before, after, h.2⟩

end Risk

end Stepwise
