import AdmissionHooks.Text.Digits
import AdmissionHooks.Text.Visible

/-!
# Quoted text

A text shown between quotes on one line. The single quote is used unless the text has one and has
no double quote; the backslash, the quote in use and the characters without a visible form are
escaped.
-/

namespace AdmissionHooks.Text

def quoteMark (cs : List Char) : Char :=
  if cs.contains '\'' && !cs.contains '"' then '"' else '\''

def escapeHidden (c : Char) : List Char :=
  let n := c.toNat
  if n ≤ 0xFF then '\\' :: 'x' :: digits 16 2 n
  else if n ≤ 0xFFFF then '\\' :: 'u' :: digits 16 4 n
  else '\\' :: 'U' :: digits 16 8 n

def escapeQuoted (mark c : Char) : List Char :=
  if c = '\\' ∨ c = mark then ['\\', c]
  else if c = '\n' then ['\\', 'n']
  else if c = '\r' then ['\\', 'r']
  else if c = '\t' then ['\\', 't']
  else if isVisible c then [c]
  else escapeHidden c

def quoteChars (cs : List Char) : List Char :=
  let mark := quoteMark cs
  mark :: cs.flatMap (escapeQuoted mark) ++ [mark]

def quote (s : String) : String := String.ofList (quoteChars s.toList)

example : quote "it's" = "\"it's\"" := by decide
example : quote "say \"it's\"\n" = "'say \"it\\'s\"\\n'" := by decide
example : quote "\u00e9\u200b" = "'\u00e9\\u200b'" := by decide +kernel

end AdmissionHooks.Text
