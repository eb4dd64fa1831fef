import BlockLang.CommandLine.Run
import BlockLang.Proofs.Encoding.Faults

/-! # Exit codes

How the command ends, by the file that it is given and the variables that are set.

* `FileSystem.Lawful`: what holds wherever paths are looked up.
* `Environment.encoding_cases`: the encoding in force is the value of its variable, if that is a
  name for anything, and UTF-8 otherwise.
* `order_cases`: what the arguments lead to. A file is checked only if it is there.
* `Task.exitCode_run`: the exit code of a check of a file that is there.
* `exitCode_le_two_iff`: the variables for which the command never ends with an internal error.
  These are all but the names of codings that read no text and of encodings that can fail otherwise
  than at bytes, or give surrogates, which cannot be shown. -/

namespace BlockLang

/-- What holds wherever paths are looked up: a path that leads to a file leads to the same file as
it is shown, and only a path with a null character is refused for it. -/
structure FileSystem.Lawful (files : FileSystem) : Prop where
  shown : ∀ path bytes, files path = .ok (.file bytes) → files (shownPath path) = .ok (.file bytes)
  null : ∀ path, files path = .error .nullCharacter → '\x00' ∈ path.toList

/-! ### The encoding in force -/

namespace Environment

variable {env : Environment}

/-- **The encoding in force** is the value of the variable if that is a name for anything. If not,
the variable is ignored. -/
theorem encoding_cases (env : Environment) :
    (given? env.encoding = some env.options.encoding ∧
      ∃ codec, Codec.named? env.options.encoding = some codec) ∨
    ((∀ name, given? env.encoding = some name → Codec.named? name = none) ∧
      env.options.encoding = "utf-8") := by
  have hdef : env.options.encoding =
      ((given? env.encoding).filter fun name => (Codec.named? name).isSome).getD "utf-8" := rfl
  cases hg : given? env.encoding with
  | none =>
    rw [hg] at hdef
    exact Or.inr ⟨fun name h => (by cases h), hdef⟩
  | some name =>
    rw [hg] at hdef
    cases hn : Codec.named? name with
    | none =>
      rw [Option.filter_some_neg (by rw [hn]; decide)] at hdef
      exact Or.inr ⟨fun name' h => by cases h; exact hn, hdef⟩
    | some codec =>
      rw [Option.filter_some_pos (by rw [hn]; rfl)] at hdef
      rw [hdef]
      exact Or.inl ⟨rfl, codec, hn⟩

theorem ignored_of_unknown {name : String} (hname : given? env.encoding = some name)
    (h : Codec.named? name = none) :
    env.options.encoding = "utf-8" ∧ env.warnings.count (.ignoredEncoding name) = 1 := by
  constructor
  · rcases encoding_cases env with ⟨hg, codec, hcodec⟩ | ⟨-, hdefault⟩
    · rw [Option.some.inj (hname.symm.trans hg), hcodec] at h
      cases h
    · exact hdefault
  · have hlimit : ∀ l : List Event, l = [] ∨ (∃ text, l = [.ignoredLimit text]) →
        l.count (.ignoredEncoding name) = 0 := by
      rintro l (rfl | ⟨text, rfl⟩) <;> rfl
    rw [warnings, hname, List.count_append, hlimit]
    · dsimp only
      rw [h]
      simp
    · split
      · split
        · exact Or.inl rfl
        · exact Or.inr ⟨_, rfl⟩
      · exact Or.inl rfl

theorem named?_utf8 : Codec.named? "utf-8" = some (.text .utf8) := by decide +kernel

theorem exists_codec (env : Environment) : ∃ codec,
    Codec.named? env.options.encoding = some codec ∧
      fileCodec? env.options.encoding = some codec := by
  have hlocale : Codec.named? "locale" = none := by decide +kernel
  have hcodec : ∃ codec, Codec.named? env.options.encoding = some codec := by
    rcases encoding_cases env with ⟨-, h⟩ | ⟨-, h⟩
    · exact h
    · exact ⟨_, by rw [h, named?_utf8]⟩
  obtain ⟨codec, h⟩ := hcodec
  refine ⟨codec, h, ?_⟩
  rw [fileCodec?, if_neg, h]
  intro he
  rw [he, hlocale] at h
  cases h

theorem set_eq_ok_iff : env.set = .ok env ↔
    (∀ text ∈ env.fractionDigits, '\x00' ∉ text.toList) ∧
      ∀ text ∈ env.encoding, '\x00' ∉ text.toList := by
  have hany : ∀ setting : Option String, setting.any (·.contains '\x00') = false ↔
      ∀ text ∈ setting, '\x00' ∉ text.toList := by
    rintro (_ | text)
    · exact iff_of_true rfl fun _ h => by cases h
    · simp [String.contains_char_eq]
  rw [← hany, ← hany, set, List.any_cons, List.any_cons, List.any_nil, Bool.or_false]
  cases env.fractionDigits.any (·.contains '\x00') <;>
    cases env.encoding.any (·.contains '\x00') <;> simp

theorem null_not_mem_encoding (hset : env.set = .ok env) :
    '\x00' ∉ env.options.encoding.toList := by
  rcases encoding_cases env with ⟨hg, -⟩ | ⟨-, h⟩
  · rw [given?, Option.filter_eq_some_iff] at hg
    exact (set_eq_ok_iff.mp hset).2 _ hg.1
  · rw [h]; decide

end Environment

/-! ### The path in the arguments -/

namespace CommandLine

variable {env : Environment} {files : FileSystem} {arguments : List String} {t : Task}
  {bytes : List UInt8} {codec : Codec}

theorem readOption_ne_argument (text : List Char) (a : String) :
    readOption text ≠ .ok (.argument a) := by
  intro h
  unfold readOption at h
  dsimp only at h
  split at h
  · cases h
  · cases h
  · cases h
  · cases h
  split at h
  · cases h
  · cases hs : shortSwitches text.tail <;> rw [hs] at h <;> cases h

theorem eq_of_readItem_argument {text a : String} (h : readItem text = .ok (.argument a)) :
    a = text := by
  unfold readItem at h
  split at h
  · cases h
  · exact absurd h (readOption_ne_argument _ _)
  · cases h; rfl

theorem mem_of_parseAfter {r r' : Request} {texts : List String}
    (h : r.parseAfter texts = .ok r') : ∀ a ∈ r'.arguments, a ∈ r.arguments ∨ a ∈ texts := by
  fun_induction Request.parseAfter r texts
  case case1 => cases h; exact fun a ha => Or.inl ha
  case case2 | case8 => cases h
  case case3 =>
    cases h
    intro a ha
    exact (List.mem_append.mp ha).imp_right (List.mem_cons_of_mem _)
  case case4 r text rest b hread ih =>
    intro a ha
    rcases ih h a ha with ha | ha
    · rcases List.mem_append.mp ha with ha | ha
      · exact Or.inl ha
      · rw [List.mem_singleton.mp ha, eq_of_readItem_argument hread]
        exact Or.inr List.mem_cons_self
    · exact Or.inr (List.mem_cons_of_mem _ ha)
  case case5 ih | case6 ih | case7 ih =>
    intro a ha
    exact (ih h a ha).imp_right (List.mem_cons_of_mem _)
  case case9 ih =>
    intro a ha
    exact (ih h a ha).imp_right fun ha => List.mem_cons_of_mem _ (List.mem_cons_of_mem _ ha)

theorem Request.file_cases (r : Request) (files : FileSystem) :
    (∃ e, r.file files = .error (.usage e)) ∨
      ∃ path ∈ r.arguments,
        (files path = .error .nullCharacter ∧ r.file files = .error .nullCharacter) ∨
        ∃ bytes, files path = .ok (.file bytes) ∧ r.file files = .ok path := by
  unfold Request.file
  split
  · exact Or.inl ⟨_, rfl⟩
  · next path extra harguments =>
    have hmem : path ∈ r.arguments := by rw [harguments]; exact List.mem_cons_self
    split
    · next hnull => exact Or.inr ⟨path, hmem, Or.inl ⟨hnull, rfl⟩⟩
    · exact Or.inl ⟨_, rfl⟩
    · exact Or.inl ⟨_, rfl⟩
    · exact Or.inl ⟨_, rfl⟩
    · next bytes hbytes =>
      split
      · exact Or.inr ⟨path, hmem, Or.inr ⟨bytes, hbytes, rfl⟩⟩
      · exact Or.inl ⟨_, rfl⟩

/-- **What the arguments lead to**: a usage error, a notice, a null character in one of them, or the
check of a file that is there and that one of them names. -/
theorem order_cases (files : FileSystem) (arguments : List String) :
    (∃ e, order files arguments = .error (.usage e)) ∨
      (∃ n, order files arguments = .ok (.notice n)) ∨
      ∃ path ∈ arguments,
        (files path = .error .nullCharacter ∧ order files arguments = .error .nullCharacter) ∨
        ∃ bytes limit switches, files path = .ok (.file bytes) ∧
          order files arguments = .ok (.check ⟨path, limit, switches⟩) := by
  unfold order
  cases hparse : Request.parse arguments with
  | error e => exact Or.inl ⟨e, rfl⟩
  | ok request =>
    dsimp only
    have harguments : ∀ path ∈ request.arguments, path ∈ arguments := fun path hpath =>
      (mem_of_parseAfter hparse path hpath).resolve_left List.not_mem_nil
    rw [Request.order]
    cases request.notice with
    | some n => exact Or.inr (Or.inl ⟨n, rfl⟩)
    | none =>
      cases request.limitValue with
      | error e => exact Or.inl ⟨e, rfl⟩
      | ok limit =>
        dsimp only
        rcases request.file_cases files with
          ⟨e, h⟩ | ⟨path, hpath, ⟨hnull, h⟩ | ⟨bytes, hbytes, h⟩⟩
        · exact Or.inl ⟨e, by rw [h]; rfl⟩
        · exact Or.inr (Or.inr ⟨path, harguments path hpath, Or.inl ⟨hnull, by rw [h]; rfl⟩⟩)
        · exact Or.inr (Or.inr ⟨path, harguments path hpath,
            Or.inr ⟨bytes, limit, request.switches, hbytes, by rw [h]; rfl⟩⟩)

/-! ### Ends of a check -/

theorem readSource_of_file (hset : env.set = .ok env) {path : String}
    (hfile : files (shownPath path) = .ok (.file bytes)) :
    readSource files env.options.encoding path = decodeText env.options.encoding bytes := by
  rw [readSource, hfile]
  exact if_neg (Environment.null_not_mem_encoding hset)

theorem Task.exitCode_runOn (t : Task) (env : Environment) (source : String) :
    (t.runOn env source).exitCode =
      if (check (t.options env) source (shownPath t.path)).success then 0 else 1 := by
  rw [Task.runOn]
  split <;> rfl

theorem Task.exitCode_runOnPoints (t : Task) (env : Environment) (points : List CodePoint) :
    (t.runOnPoints env points).exitCode =
      if t.has .tokens = true ∧ tokensFault? points ≠ none then 3
      else (t.runOn env (disguised points)).exitCode := by
  rw [Task.runOnPoints]
  by_cases htokens : t.has .tokens = true
  · rw [if_pos htokens]
    cases htokensFault : tokensFault? points with
    | none => simp
    | some fault => simp [htokens, Failure.exitCode]
  · rw [if_neg htokens, if_neg fun hboth => htokens hboth.1]

/-- **The exit code of a check** of a file that is there. -/
theorem Task.exitCode_run (t : Task) (hset : env.set = .ok env)
    (hcodec : Codec.named? env.options.encoding = some codec)
    (hfile : files (shownPath t.path) = .ok (.file bytes)) :
    (t.run env files).exitCode =
      match codec with
      | .bytesOnly => 3
      | .text e =>
        match e.decode bytes with
        | .ok text => (t.runOn env (sourceOf text)).exitCode
        | .error (.fault _) => 2
        | .error (.surrogates points) => (t.runOnPoints env points).exitCode
        | .error _ => 3 := by
  obtain ⟨codec', hknown, hfileCodec⟩ := env.exists_codec
  obtain rfl : codec' = codec := Option.some.inj (hknown.symm.trans hcodec)
  have hencoding : (t.options env).encoding = env.options.encoding := rfl
  rw [Task.run, hencoding, readSource_of_file hset hfile, decodeText, hfileCodec]
  cases codec' with
  | bytesOnly => rfl
  | text e =>
    dsimp only
    cases e.decode bytes with
    | error error => cases error <;> rfl
    | ok text => rfl

theorem Task.exitCode_run_le_two (t : Task) {e : Encoding} (hset : env.set = .ok env)
    (hcodec : Codec.named? env.options.encoding = some (.text e))
    (hfile : files (shownPath t.path) = .ok (.file bytes)) (h : (e.decode bytes).AtBytes) :
    (t.run env files).exitCode ≤ 2 := by
  rw [t.exitCode_run hset hcodec hfile]
  dsimp only
  generalize e.decode bytes = decoding at h ⊢
  cases h with
  | text text =>
    dsimp only
    rw [t.exitCode_runOn]
    split <;> omega
  | fault f => exact Nat.le_refl 2

theorem tokensFault?_loneSurrogate : tokensFault? Encoding.loneSurrogate ≠ none := by
  decide +kernel

/-- The check of a file that shows its tokens ends with an internal error if the file cannot be read
but has no bytes at fault, or if it is a literal with a surrogate. -/
theorem Task.exitCode_run_eq_three (t : Task) (htokens : t.has .tokens = true) {e : Encoding}
    (hset : env.set = .ok env) (hcodec : Codec.named? env.options.encoding = some (.text e))
    (hfile : files (shownPath t.path) = .ok (.file bytes))
    (h : Encoding.failsOtherwise (e.decode bytes) = true) : (t.run env files).exitCode = 3 := by
  rw [t.exitCode_run hset hcodec hfile]
  dsimp only
  cases hdecode : e.decode bytes with
  | ok text =>
    rw [hdecode] at h
    cases h
  | error error =>
    rw [hdecode] at h
    cases error with
    | fault f => cases h
    | surrogates points =>
      obtain rfl : points = Encoding.loneSurrogate := of_decide_eq_true h
      dsimp only
      rw [t.exitCode_runOnPoints, if_pos ⟨htokens, tokensFault?_loneSurrogate⟩]
    | _ => rfl

/-- **The variables for which the command never ends with an internal error**, whatever the
arguments and the files are: their encoding is unset, is no name for anything, or is the name of an
encoding that fails only at bytes. -/
theorem exitCode_le_two_iff (env : Environment) (hset : env.set = .ok env) :
    (∀ files arguments, FileSystem.Lawful files → (∀ text ∈ arguments, '\x00' ∉ text.toList) →
      ∃ ending, run env files arguments = .ok ending ∧ ending.exitCode ≤ 2) ↔
    ∀ name codec, Environment.given? env.encoding = some name →
      Codec.named? name = some codec →
        ∃ e : Encoding, codec = .text e ∧ e.failsOnlyAtBytes = true := by
  constructor
  · intro h name codec hname hcodec
    have hoptions : env.options.encoding = name := by
      rcases env.encoding_cases with ⟨hg, -⟩ | ⟨hnone, -⟩
      · exact Option.some.inj (hg.symm.trans hname)
      · rw [hnone name hname] at hcodec
        cases hcodec
    rw [← hoptions] at hcodec
    -- the file that is checked can have any bytes
    have hall : ∀ bytes, (Task.run ⟨"p", none, [.tokens]⟩ env fun _ => .ok (.file bytes)).exitCode ≤
        2 := by
      intro bytes
      have hlawful : FileSystem.Lawful fun _ => .ok (.file bytes) :=
        ⟨fun _ _ hp => hp, fun _ hp => by cases hp⟩
      obtain ⟨ending, hrun, hcode⟩ := h _ ["--tokens", "p"] hlawful (by decide)
      cases hrun
      exact hcode
    cases codec with
    | bytesOnly =>
      have hcode := hall []
      rw [Task.exitCode_run _ hset hcodec rfl] at hcode
      dsimp only at hcode
      omega
    | text e =>
      refine ⟨e, rfl, ?_⟩
      cases hfails : e.failsOnlyAtBytes with
      | true => rfl
      | false =>
        obtain ⟨bytes, hbytes⟩ := Encoding.exists_failsOtherwise hcodec hfails
        have hcode := hall bytes
        rw [Task.exitCode_run_eq_three _ rfl hset hcodec rfl hbytes] at hcode
        exact absurd hcode (by decide)
  · intro h files arguments hlawful hnull
    rcases order_cases files arguments with
      ⟨e, horder⟩ | ⟨n, horder⟩ | ⟨path, hpath, ⟨hrefused, -⟩ | ⟨bytes, limit, switches, hbytes, horder⟩⟩
    · exact ⟨e.ending, by rw [run, horder], Nat.le_refl 2⟩
    · exact ⟨⟨0, n.text, ""⟩, by rw [run, horder], Nat.zero_le 2⟩
    · exact absurd (hlawful.null path hrefused) (hnull path hpath)
    · refine ⟨Task.run ⟨path, limit, switches⟩ env files, by rw [run, horder], ?_⟩
      obtain ⟨codec, hcodec, -⟩ := env.exists_codec
      have hfile := hlawful.shown path bytes hbytes
      have hsafe : ∃ e : Encoding, codec = .text e ∧ e.failsOnlyAtBytes = true := by
        rcases env.encoding_cases with ⟨hg, -⟩ | ⟨-, hdefault⟩
        · exact h _ _ hg hcodec
        · rw [hdefault, Environment.named?_utf8] at hcodec
          cases hcodec
          exact ⟨_, rfl, rfl⟩
      obtain ⟨e, rfl, he⟩ := hsafe
      exact Task.exitCode_run_le_two _ hset hcodec hfile (Encoding.atBytes_decode he bytes)

/-- With a limit that is none and a national encoding the command never ends with an internal
error. -/
theorem exitCode_le_two_of_shiftJis :
    ({ fractionDigits := some "x", encoding := some "Shift-JIS" } : Environment).set =
        .ok { fractionDigits := some "x", encoding := some "Shift-JIS" } ∧
      ∀ files arguments, FileSystem.Lawful files → (∀ text ∈ arguments, '\x00' ∉ text.toList) →
        ∃ ending, run { fractionDigits := some "x", encoding := some "Shift-JIS" } files arguments =
          .ok ending ∧ ending.exitCode ≤ 2 := by
  have hset : ({ fractionDigits := some "x", encoding := some "Shift-JIS" } : Environment).set =
      .ok { fractionDigits := some "x", encoding := some "Shift-JIS" } :=
    Environment.set_eq_ok_iff.mpr ⟨by decide, by decide⟩
  refine ⟨hset, (exitCode_le_two_iff _ hset).mpr fun name codec hname hcodec => ?_⟩
  cases hname
  have hshiftJis : Codec.named? "Shift-JIS" = some (.text (.multibyte .shiftJis)) := by
    decide +kernel
  rw [hshiftJis] at hcodec
  cases hcodec
  exact ⟨_, rfl, rfl⟩

/-- Two halves of a character that are escaped one by one are a literal that is not closed and a
stray code point. The value of the literal cannot be shown. -/
example : [["p"], ["p", "--tokens"]].map (fun arguments =>
    (run { encoding := some "unicode_escape" }
      (fun _ => .ok (.file (Utf8.encode "'\\ud83d\\ude00'".toList))) arguments).toOption.map
        Ending.exitCode) = [some 1, some 3] := by decide +kernel

/-- The name of a coding that reads no text is in force, and the command ends with an internal error
on an empty file. -/
theorem exitCode_of_hex : ({ encoding := some "hex" } : Environment).warnings = [] ∧
    run { encoding := some "hex" } (fun _ => .ok (.file [])) ["p"] =
      .ok ⟨3, "", "Internal error: 'hex' is not a text encoding; " ++
        "use codecs.open() to handle arbitrary codecs\n"⟩ := by
  have hoptions : ({ encoding := some "hex" } : Environment).options = ⟨5, "hex"⟩ := by
    decide +kernel
  have hhex : fileCodec? "hex" = some .bytesOnly := by decide +kernel
  have hread : readSource (fun _ => .ok (.file [])) "hex" "p" = .error (.notTextEncoding "hex") := by
    have hnull : '\x00' ∉ "hex".toList := by decide
    rw [readSource]
    dsimp only
    rw [if_neg hnull, decodeText, hhex]
  refine ⟨by decide +kernel, ?_⟩
  have horder : order (fun _ => .ok (.file [])) ["p"] = .ok (.check ⟨"p", none, []⟩) := rfl
  rw [run, horder]
  dsimp only
  rw [Task.run, Task.options, hoptions]
  dsimp only
  rw [hread]
  exact congrArg Except.ok (by decide +kernel)

end CommandLine

end BlockLang
