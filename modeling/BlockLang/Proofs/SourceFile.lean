import BlockLang.SourceFile
import BlockLang.Proofs.Encoding.Utf8
import BlockLang.Proofs.Lexing.CarriageReturn

/-! # Programs in files

A file that holds a program in UTF-8 is read back as the program (`decodeText_encode`), with line
feeds as line ends. These make no difference to a check, unless a carriage return is in a literal or
ends a line by itself. -/

namespace BlockLang

theorem fileCodec?_utf8 : fileCodec? "utf-8" = some (.text .utf8) := by decide +kernel

theorem decodeText_encode (text : List Char) :
    decodeText "utf-8" (Utf8.encode text) = .ok (sourceOf text) := by
  rw [decodeText, fileCodec?_utf8]
  dsimp only [Encoding.decode]
  rw [Utf8.decode_encode]

/-- **A program is checked alike from a file and from memory.** If every carriage return of a text
has a line feed right after it, and no literal of the text holds one, the check of a file that holds
the text in UTF-8 gives what the check of the text gives, with the path as the name. -/
theorem checkFile_eq_check (files : FileSystem) (options : Options) (path source filename : String)
    (hencoding : options.encoding = "utf-8")
    (hfile : files (shownPath path) = .ok (.file (Utf8.encode source.toList)))
    (hreturns : Text.ReturnsPaired source.toList)
    (hliteral : ∀ s ∈ segments source.toList, s.IsLiteral → '\r' ∉ s.text) :
    checkFile files options path =
      .ok { check options source filename with filename := shownPath path } := by
  have hnull : '\x00' ∉ "utf-8".toList := by decide
  rw [checkFile, readSource, hfile, hencoding]
  dsimp only
  rw [if_neg hnull, decodeText_encode]
  have hcheck := check_withLineFeeds options (shownPath path) hreturns hliteral
  exact congrArg Except.ok hcheck

/-- Comments with carriage returns, and a literal that ends before one. -/
theorem checkFile_eq_check_of_comment :
    Text.ReturnsPaired "1//é\r\n/*\r\n*\r\n/*/'b\r\n'".toList ∧
      checkFile (fun _ => .ok (.file (Utf8.encode "1//é\r\n/*\r\n*\r\n/*/'b\r\n'".toList))) {} "p" =
        .ok { check {} "1//é\r\n/*\r\n*\r\n/*/'b\r\n'" "" with filename := shownPath "p" } ∧
      (check {} "1//é\r\n/*\r\n*\r\n/*/'b\r\n'" "").tokens =
        [⟨.number, "1", 1⟩, ⟨.char, "b", 4⟩, ⟨.char, "", 5⟩, ⟨.endOfInput, "", 5⟩] := by
  have hreturns : Text.ReturnsPaired "1//é\r\n/*\r\n*\r\n/*/'b\r\n'".toList := by decide
  have hliteral : ∀ s ∈ segments "1//é\r\n/*\r\n*\r\n/*/'b\r\n'".toList,
      s.IsLiteral → '\r' ∉ s.text := by
    have hsegs : ∀ s ∈ segments "1//é\r\n/*\r\n*\r\n/*/'b\r\n'".toList,
        '\r' ∉ s.text ∨ s.shape = .lineComment ∨ s.shape = .blockComment true ∨ s.shape = .blank := by
      decide +kernel
    rintro s hs ⟨value, closed, hl⟩
    rcases hsegs s hs with h | h | h | h
    · exact h
    all_goals
      rw [h] at hl
      rcases hl with hl | hl <;> cases hl
  exact ⟨hreturns, checkFile_eq_check
    (fun _ => .ok (.file (Utf8.encode "1//é\r\n/*\r\n*\r\n/*/'b\r\n'".toList))) {} "p"
    "1//é\r\n/*\r\n*\r\n/*/'b\r\n'" "" rfl rfl hreturns hliteral, by decide +kernel⟩

end BlockLang
