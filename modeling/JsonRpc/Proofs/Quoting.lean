import JsonRpc.Json.Writer
import JsonRpc.Text.Quoted
import Mathlib

set_option autoImplicit false

namespace JsonRpc

inductive Quoted (written : Char → List Char → Prop) (text : String) : String → Prop
  | chars (parts : List (List Char)) (each : List.Forall₂ written text.toList parts) :
      Quoted written text (.ofList ('"' :: parts.flatten ++ ['"']))

theorem quoted_iff (written : Char → List Char → Prop) (write : Char → List Char)
    (only : ∀ c part, written c part ↔ part = write c) (text quoted : String) :
    Quoted written text quoted ↔ quoted = .ofList ('"' :: text.toList.flatMap write ++ ['"']) := by
  have same : written = fun c part => write c = part := by
    funext c part
    exact propext ((only c part).trans eq_comm)
  have each (parts : List (List Char)) : List.Forall₂ written text.toList parts ↔ parts = text.toList.map write := by
    rw [same, ← List.forall₂_map_left_iff, List.forall₂_eq_eq_eq, eq_comm]
  rw [List.flatMap_def]
  constructor
  · intro shown
    cases shown with
    | chars parts shown => rw [(each parts).mp shown]
  · intro same
    rw [same]
    exact .chars _ ((each _).mpr rfl)

namespace Json

inductive Escaped : Char → List Char → Prop
  | quote : Escaped '"' ['\\', '"']
  | backslash : Escaped '\\' ['\\', '\\']
  | backspace : Escaped '\x08' ['\\', 'b']
  | tab : Escaped '\t' ['\\', 't']
  | newline : Escaped '\n' ['\\', 'n']
  | formFeed : Escaped '\x0c' ['\\', 'f']
  | carriageReturn : Escaped '\r' ['\\', 'r']
  | control (c : Char) (low : c.toNat < 0x20) (unnamed : c ∉ ['\x08', '\t', '\n', '\x0c', '\r']) :
      Escaped c ('\\' :: 'u' :: (Nat.toDigits 16 c.toNat).leftpad 4 '0')
  | plain (c : Char) (high : 0x20 ≤ c.toNat) (noQuote : c ≠ '"') (noSlash : c ≠ '\\') : Escaped c [c]

def namedEscapes : List Char := ['"', '\\', '\x08', '\t', '\n', '\x0c', '\r']

theorem escape_unnamed (c : Char) (unnamed : c ∉ namedEscapes) :
    escapeChar c = if c.toNat < 0x20 then
      ['\\', 'u', '0', '0', hexDigit (c.toNat / 16), hexDigit c.toNat] else [c] := by
  unfold escapeChar
  split <;> first | rfl | exact absurd (by decide) unnamed

theorem control_code : ∀ code < 0x20,
    (Nat.toDigits 16 code).leftpad 4 '0' = ['0', '0', hexDigit (code / 16), hexDigit code] := by
  decide

theorem escaped_iff (c : Char) (part : List Char) : Escaped c part ↔ part = escapeChar c := by
  constructor
  · intro escaped
    cases escaped with
    | control c low unnamed =>
      have others : c ∉ namedEscapes := by
        simp only [namedEscapes, List.mem_cons, not_or] at unnamed ⊢
        refine ⟨?_, ?_, unnamed⟩ <;> rintro rfl <;> exact absurd low (by decide)
      rw [escape_unnamed c others, if_pos low, control_code _ low]
    | plain c high noQuote noSlash =>
      have others : c ∉ namedEscapes := by
        simp only [namedEscapes, List.mem_cons, not_or, noQuote, noSlash, not_false_eq_true, true_and]
        refine ⟨?_, ?_, ?_, ?_, ?_, List.not_mem_nil⟩ <;> rintro rfl <;> exact absurd high (by decide)
      rw [escape_unnamed c others, if_neg (by omega)]
    | _ => rfl
  · intro same
    rw [same]
    by_cases named : c ∈ namedEscapes
    · simp only [namedEscapes, List.mem_cons, List.not_mem_nil, or_false] at named
      rcases named with rfl | rfl | rfl | rfl | rfl | rfl | rfl
      · exact .quote
      · exact .backslash
      · exact .backspace
      · exact .tab
      · exact .newline
      · exact .formFeed
      · exact .carriageReturn
    · rw [escape_unnamed c named]
      simp only [namedEscapes, List.mem_cons, not_or] at named
      split
      · next low => exact control_code _ low ▸ .control c low (by simpa [not_or] using named.2.2)
      · next high => exact .plain c (by omega) named.1 named.2.1

theorem string_text_iff (text quoted : String) : Quoted Escaped text quoted ↔ quoted = stringText text :=
  quoted_iff Escaped escapeChar escaped_iff text quoted

end Json

namespace Text

-- How a diagnostic shows a character.
inductive Shown : Char → List Char → Prop
  | null : Shown '\x00' ['\\', '0']
  | tab : Shown '\t' ['\\', 't']
  | newline : Shown '\n' ['\\', 'n']
  | carriageReturn : Shown '\r' ['\\', 'r']
  | quote : Shown '"' ['\\', '"']
  | backslash : Shown '\\' ['\\', '\\']
  | unprintable (c : Char) (hidden : isUnprintable c = true) (unnamed : c ∉ ['\x00', '\t', '\n', '\r']) :
      Shown c (['\\', 'u', '\x7b'] ++ Nat.toDigits 16 c.toNat ++ ['\x7d'])
  | plain (c : Char) (printable : isUnprintable c = false) (noQuote : c ≠ '"') (noSlash : c ≠ '\\') : Shown c [c]

def namedChars : List Char := ['\x00', '\t', '\n', '\r', '"', '\\']

theorem quote_unnamed (c : Char) (unnamed : c ∉ namedChars) :
    quoteChar c = if isUnprintable c then ['\\', 'u', '\x7b'] ++ hex c.toNat ++ ['\x7d'] else [c] := by
  unfold quoteChar
  split <;> first | rfl | exact absurd (by decide) unnamed

theorem shown_iff (c : Char) (part : List Char) : Shown c part ↔ part = quoteChar c := by
  constructor
  · intro shown
    cases shown with
    | unprintable c hidden unnamed =>
      have others : c ∉ namedChars := by
        simp only [namedChars, List.mem_cons, not_or, List.not_mem_nil, not_false_eq_true, and_true] at unnamed ⊢
        obtain ⟨null, tab, newline, carriageReturn⟩ := unnamed
        refine ⟨null, tab, newline, carriageReturn, ?_, ?_⟩ <;> rintro rfl <;> exact absurd hidden (by decide)
      rw [quote_unnamed c others, if_pos hidden]
      rfl
    | plain c printable noQuote noSlash =>
      have others : c ∉ namedChars := by
        simp only [namedChars, List.mem_cons, not_or, List.not_mem_nil, not_false_eq_true, and_true, noQuote, noSlash]
        refine ⟨?_, ?_, ?_, ?_⟩ <;> rintro rfl <;> exact absurd printable (by decide)
      rw [quote_unnamed c others, printable]
      rfl
    | _ => rfl
  · intro same
    rw [same]
    by_cases named : c ∈ namedChars
    · simp only [namedChars, List.mem_cons, List.not_mem_nil, or_false] at named
      rcases named with rfl | rfl | rfl | rfl | rfl | rfl
      · exact .null
      · exact .tab
      · exact .newline
      · exact .carriageReturn
      · exact .quote
      · exact .backslash
    · rw [quote_unnamed c named]
      simp only [namedChars, List.mem_cons, not_or] at named
      obtain ⟨null, tab, newline, carriageReturn, noQuote, noSlash, _⟩ := named
      cases hidden : isUnprintable c with
      | true => exact .unprintable c hidden (by simp [null, tab, newline, carriageReturn])
      | false => exact .plain c hidden noQuote noSlash

theorem quote_iff (text quoted : String) : Quoted Shown text quoted ↔ quoted = quote text :=
  quoted_iff Shown quoteChar shown_iff text quoted

end Text

end JsonRpc
