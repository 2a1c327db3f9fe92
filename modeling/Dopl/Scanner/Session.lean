import Dopl.Scanner

/-! # Sessions with a scanner

A client may drive a scanner by single commands: load a source, scan what is left of it or a line of
its own, make tokens from texts of its own, and note faults. **`Scanner.perform`** carries out one
command. -/

namespace Dopl

/-- A command to a scanner. -/
inductive ScanCommand where
  /-- Starts afresh with a source. -/
  | load (source : Source)
  /-- Scans a source, or what is left of the loaded one. -/
  | scan (source : Option Source)
  /-- Scans one line as it is. -/
  | scanLine (line : String)
  /-- Makes a text a word, unless it is empty. -/
  | flush (text : String)
  /-- Makes a text a token of a kind. -/
  | emit (text : String) (kind : TokenKind)
  /-- Notes a fault. -/
  | fail (text : String)
  /-- Starts afresh without a source. -/
  | clear
deriving DecidableEq, Repr

/-- The answer to a command. -/
inductive ScanReply where
  /-- The command is carried out. -/
  | done
  /-- The source is scanned, and this many tokens are held. -/
  | held (count : Nat)
  /-- There is no source to scan. -/
  | noSource
deriving DecidableEq, Repr

namespace Scanner

/-- Scans what is left of the source. -/
def scanRest (scanner : Scanner) : Scanner × ScanReply :=
  match scanner.scan? with
  | some scanned => (scanned, .held scanned.tokens.size)
  | none => (scanner, .noSource)

/-- Carries out a command. -/
def perform (scanner : Scanner) : ScanCommand → Scanner × ScanReply
  | .load source => (load source, .done)
  | .scan (some source) => (load source).scanRest
  | .scan none => scanner.scanRest
  | .scanLine line => (scanner.scanLine line, .done)
  | .flush text => ({ scanner with pending := text }.flush, .done)
  | .emit text kind => ({ scanner with pending := text }.emit kind, .done)
  | .fail text => (scanner.fail (.noted text), .done)
  | .clear => ({}, .done)

end Scanner

end Dopl
