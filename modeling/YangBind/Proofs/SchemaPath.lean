import YangBind.SchemaPath
import YangBind.Proofs.Text.Segment

/-! Schema paths as text. Every text is what the path read from it is written as. The other way
round a path is read back from its text unless one of its segments holds a slash, which cuts it, or
the path is two empty segments, which are written as the boundary alone is. -/

namespace YangBind

open Text

namespace SchemaPath

theorem parse_of_ne {text : String} (hempty : text ≠ "") (hslash : text ≠ "/") :
    parse text = ⟨split '/' text⟩ := by
  rw [parse, if_neg hempty, if_neg hslash]

theorem render_of_ne {p : SchemaPath} (h : p ≠ root) : p.render = join '/' p.segments := by
  rw [render, if_neg h]

theorem render_parse (text : String) : (parse text).render = text := by
  by_cases hempty : text = ""
  · subst hempty
    decide
  by_cases hslash : text = "/"
  · subst hslash
    decide
  have hroot : (⟨split '/' text⟩ : SchemaPath) ≠ root := by
    intro h
    have hsplit : split '/' text = [""] := congrArg segments h
    apply hempty
    rw [← join_split '/' text, hsplit]
    decide
  rw [parse_of_ne hempty hslash, render_of_ne hroot, join_split]

theorem slash_not_mem_of_mem_parse {text segment : String} (h : segment ∈ (parse text).segments) :
    '/' ∉ segment.toList := by
  rw [parse] at h
  split at h
  case isTrue => cases h
  case isFalse =>
    split at h
    case isTrue =>
      obtain rfl := List.mem_singleton.1 h
      simp
    case isFalse => exact not_mem_of_mem_split h

/-- Neither of the two texts that are read in a way of their own is written for any other path. -/
theorem parse_render {p : SchemaPath} (h : ∀ segment ∈ p.segments, '/' ∉ segment.toList)
    (htwo : p.segments ≠ ["", ""]) : parse p.render = p := by
  by_cases hnil : p.segments = []
  · obtain ⟨segments⟩ := p
    subst hnil
    decide
  by_cases hroot : p = root
  · subst hroot
    decide
  have hsplit : split '/' (join '/' p.segments) = p.segments := split_join hnil h
  have hempty : join '/' p.segments ≠ "" := by
    intro hjoin
    rw [hjoin] at hsplit
    exact hroot (segments_inj.1 hsplit.symm)
  have hslash : join '/' p.segments ≠ "/" := by
    intro hjoin
    rw [hjoin] at hsplit
    exact htwo hsplit.symm
  rw [render_of_ne hroot, parse_of_ne hempty hslash, hsplit]

/-- Writing what was read from a text gives the text. Reading what was written for a path gives the
path exactly if its segments hold no slash and are not two empty ones. -/
theorem parse_render_iff :
    (∀ text, (parse text).render = text) ∧
      ∀ p : SchemaPath, parse p.render = p ↔
        (∀ segment ∈ p.segments, '/' ∉ segment.toList) ∧ p.segments ≠ ["", ""] := by
  refine ⟨render_parse, fun p => ⟨fun h => ⟨fun segment hsegment => ?_, ?_⟩, ?_⟩⟩
  · rw [← h] at hsegment
    exact slash_not_mem_of_mem_parse hsegment
  · intro htwo
    obtain ⟨segments⟩ := p
    subst htwo
    exact absurd h (by decide)
  · rintro ⟨h, htwo⟩
    exact parse_render h htwo

example : parse "//" = ⟨["", "", ""]⟩ := by decide

end SchemaPath

end YangBind
