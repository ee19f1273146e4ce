import Telekio.Patching.Manifest

/-!
# The texts of a generated patch

The build script and the root module that `write_patch` writes, and the parts
of them that tell the roles apart.
-/

namespace Telekio.Patching

def manifestComment : String :=
  "# Generated by Telekio. Defines Tokio for this target.\n\n"

/-- The branch of the build script that is only there for the host. -/
def nativeBuild : Role → String
  | .host =>
      Text.line ("    if (std::env::var_os(\"CARGO_CFG_UNIX\").is_some() || " ++
        "std::env::var_os(\"CARGO_CFG_WINDOWS\").is_some()) && " ++
        "std::env::var_os(\"CARGO_CFG_LOOM\").is_none() \x7b") ++
      (Text.line "        println!(\"cargo::rustc-cfg=telekio_host\");" ++
      (Text.line "        return;" ++
      Text.line "    \x7d"))
  | .guest => ""

def buildScript (source : Role) : String :=
  Text.line "// Generated by Telekio. Prepares Tokio for this target." ++
  (Text.line "" ++
  (Text.line "fn main() \x7b" ++
  (Text.line "    println!(\"cargo::rustc-check-cfg=cfg(telekio_host)\");" ++
  (nativeBuild source ++
  (Text.line "    let source = telekio_build::prepare_guest().unwrap();" ++
  (Text.line ("    println!(\"cargo::rustc-env=TELEKIO_TOKIO_SOURCE=\x7b\x7d\", " ++
    "source.join(\"src/lib.rs\").display());") ++
  Text.line "\x7d"))))))

def includeTokio : String :=
  "include!(env!(\"TELEKIO_TOKIO_SOURCE\"));\n"

def libBody : Role → String
  | .host =>
      "#[cfg(telekio_host)]\n" ++ hostExport ++ "\n\n" ++
      "#[cfg(not(telekio_host))]\n" ++ includeTokio
  | .guest => includeTokio

def libComment : String :=
  "// Generated by Telekio. Exposes Tokio for this target.\n\n"

/-- The preamble is that of Tokio's own root module. -/
def libSource (preamble : String) (source : Role) : String :=
  preamble ++ libComment ++ libBody source

theorem nativeCfg_inLine : '\n' ∉ nativeCfg.toList := by
  simp only [nativeCfg, String.reduceToList]
  decide

/-- The lines that both roles have name the flag at most as one to check. -/
theorem not_contains_checkCfg : Text.contains
    "    println!(\"cargo::rustc-check-cfg=cfg(telekio_host)\");" nativeCfg =
      false := by
  simp only [Text.contains, nativeCfg, String.reduceToList]
  decide

theorem not_contains_of_missing {text : String} {character : Char}
    (needed : character ∈ ['r', 'u', 's', 't', 'c', '-', 'c', 'f', 'g', '='])
    (missing : character ∉ text.toList) :
    Text.contains text nativeCfg = false := by
  refine Text.not_contains_of_notMem ?_ missing
  simp only [nativeCfg, String.reduceToList]
  simp only [List.mem_cons, List.not_mem_nil, or_false] at needed ⊢
  tauto

theorem contains_nativeBuild :
    Text.contains (nativeBuild .host) nativeCfg = true := by
  have printed : Text.contains
      "        println!(\"cargo::rustc-cfg=telekio_host\");" nativeCfg =
        true := by
    simp only [Text.contains, nativeCfg, String.reduceToList]
    decide
  refine Text.contains_append_right (Text.contains_append_left ?_)
  rw [Text.contains_line nativeCfg_inLine, printed, Bool.true_or]

/-- The flag is set by the build script of the host alone. -/
theorem contains_buildScript (source : Role) :
    Text.contains (buildScript source) nativeCfg =
      decide (source = .host) := by
  cases source with
  | host =>
      simp only [buildScript]
      refine Text.contains_append_right (Text.contains_append_right
        (Text.contains_append_right (Text.contains_append_right
          (Text.contains_append_left contains_nativeBuild))))
  | guest =>
      simp only [buildScript, nativeBuild, String.empty_append,
        Text.contains_line_append nativeCfg_inLine,
        Text.contains_line nativeCfg_inLine, not_contains_checkCfg]
      -- the other lines lack a character each
      rw [@not_contains_of_missing _ '=' (by simp) (by simp),
        @not_contains_of_missing _ '=' (by simp) (by simp),
        @not_contains_of_missing _ '=' (by simp) (by simp),
        @not_contains_of_missing _ '-' (by simp) (by simp),
        @not_contains_of_missing _ 'f' (by simp) (by simp),
        @not_contains_of_missing _ '=' (by simp) (by simp)]
      rfl

theorem hostExport_noSlash : '/' ∉ hostExport.toList := by
  simp [hostExport]

theorem libBody_guest : libBody .guest = includeTokio :=
  rfl

theorem libComment_slash :
    libComment.toList = '/' :: libComment.toList.tail := by
  simp [libComment]

theorem contains_libBody :
    Text.contains (libBody .host) hostExport = true :=
  Text.contains_append_left (Text.contains_append_left
    (Text.contains_append_left
      (Text.contains_append_right Text.contains_self)))

/-- The export of the host is in the text of the host alone, unless Tokio has
it in the preamble. -/
theorem contains_libSource (preamble : String) (source : Role) :
    Text.contains (libSource preamble source) hostExport =
      (Text.contains preamble hostExport || decide (source = .host)) := by
  cases source with
  | host =>
      rw [libSource, Text.contains_append_right contains_libBody]
      simp
  | guest =>
      have noHash : '#' ∉ (libComment ++ includeTokio).toList := by
        rw [String.toList_append, List.mem_append, not_or]
        exact ⟨by simp [libComment], by simp [includeTokio]⟩
      obtain ⟨rest, comment⟩ : ∃ rest,
          (libComment ++ includeTokio).toList = '/' :: rest := by
        refine ⟨libComment.toList.tail ++ includeTokio.toList, ?_⟩
        rw [String.toList_append, ← List.cons_append]
        exact congrArg (· ++ includeTokio.toList) libComment_slash
      have notAfter : ¬ hostExport.toList <:+: rest := by
        intro found
        refine noHash ?_
        rw [comment]
        exact List.mem_cons_of_mem _ (found.subset (by simp [hostExport]))
      rw [Bool.eq_iff_iff, libSource, Bool.or_eq_true, Text.contains_iff,
        Text.contains_iff, String.append_assoc, libBody_guest,
        String.toList_append, comment,
        Text.infix_append_cons_iff hostExport_noSlash]
      simp [notAfter]

end Telekio.Patching
