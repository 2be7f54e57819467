import PocketCalc.Proofs.TextWidths
import PocketCalc.Screen.Tail

/-!
# The end of a text that stays visible

A text that is too wide keeps the longest end that fits behind the ellipsis, made of whole clusters.
Where widths add up, what is shown is as wide as there is room at most, shortening it once more
changes nothing, and less room leaves an end of what more room leaves. Of the text of a session as
many characters are shown as there are columns.

This holds of every typesetting that loses no character and gives the ellipsis one column, and, for
the number of characters, that makes each character that is shown a cluster of one column. The
tables of the calculator are looked up to see that its typesetting is of this kind, and for nothing
else.
-/
namespace PocketCalc.Screen

/-- Whether some of the clusters are the longest end of all of them that fits into the columns. -/
structure IsLongestEnd (columns : List Char → Nat) (room : Nat)
    (all kept : List (List Char)) : Prop where
  suffix : kept <:+ all
  fits : (kept.map columns).sum ≤ room
  longest : ∀ more, more <:+ all → (more.map columns).sum ≤ room → more <:+ kept

/-- More room keeps more. -/
theorem IsLongestEnd.mono {columns : List Char → Nat} {room room' : Nat}
    {all kept kept' : List (List Char)} (h : IsLongestEnd columns room all kept)
    (h' : IsLongestEnd columns room' all kept') (hle : room ≤ room') : kept <:+ kept' :=
  h'.longest kept h.suffix (h.fits.trans hle)

section Fitting
variable {columns : List Char → Nat}

theorem totalColumns_eq_sum (list : List (List Char)) :
    totalColumns columns list = (list.map columns).sum := by
  induction list with
  | nil => rfl
  | cons cluster rest ih => rw [totalColumns, ih, List.map_cons, List.sum_cons]

theorem totalColumns_takeFitting_le (room : Nat) (list : List (List Char)) :
    totalColumns columns (takeFitting columns room list) ≤ room := by
  induction list generalizing room with
  | nil => exact Nat.zero_le room
  | cons cluster rest ih =>
    rw [takeFitting]
    split
    · have hrest := ih (room - columns cluster)
      rw [totalColumns]
      omega
    · exact Nat.zero_le room

theorem takeFitting_prefix (room : Nat) (list : List (List Char)) :
    takeFitting columns room list <+: list := by
  induction list generalizing room with
  | nil => exact List.nil_prefix
  | cons cluster rest ih =>
    rw [takeFitting]
    split
    · exact List.cons_prefix_cons.2 ⟨rfl, ih _⟩
    · exact List.nil_prefix

theorem prefix_takeFitting {room : Nat} {front list : List (List Char)} (h : front <+: list)
    (hfits : totalColumns columns front ≤ room) : front <+: takeFitting columns room list := by
  induction front generalizing room list with
  | nil => exact List.nil_prefix
  | cons cluster front ih =>
    cases list with
    | nil => simp at h
    | cons first rest =>
      obtain ⟨rfl, hfront⟩ := List.cons_prefix_cons.1 h
      rw [totalColumns] at hfits
      have hfirst : columns cluster ≤ room := by omega
      rw [takeFitting, if_pos hfirst]
      exact List.cons_prefix_cons.2 ⟨rfl, ih hfront (by omega)⟩

theorem takeFitting_eq_take {list : List (List Char)} (h : ∀ cluster ∈ list, columns cluster = 1)
    (room : Nat) : takeFitting columns room list = list.take room := by
  induction list generalizing room with
  | nil => simp [takeFitting]
  | cons cluster rest ih =>
    have hcluster : columns cluster = 1 := h cluster List.mem_cons_self
    have hrest := ih fun x hx => h x (List.mem_cons_of_mem cluster hx)
    cases room with
    | zero => simp [takeFitting, hcluster]
    | succ room => simp [takeFitting, hcluster, hrest]

end Fitting

theorem flatten_suffix {kept all : List (List Char)} (h : kept <:+ all) :
    kept.flatten <:+ all.flatten := by
  obtain ⟨front, rfl⟩ := h
  exact ⟨front.flatten, List.flatten_append.symm⟩

namespace Typesetting

/-- What a typesetting has to keep to. -/
structure Lawful (T : Typesetting) : Prop where
  flatten_clusters : ∀ text, (T.clusters text).flatten = text
  columns_ellipsis : T.columns [ellipsis] = 1

/-- Whether in texts of these characters each of them is a cluster of one column. -/
structure PlainOn (T : Typesetting) (chars : List Char) : Prop where
  clusters_eq : ∀ text, (∀ c ∈ text, c ∈ chars) → T.clusters text = text.map fun c => [c]
  columns_eq : ∀ text, (∀ c ∈ text, c ∈ chars) → T.columns text = text.length

/-- Whether the width of two strings put together is the sum of their widths, for all strings made
of the ellipsis and clusters of a text. -/
def AddsUp (T : Typesetting) (text : List Char) : Prop :=
  ∀ front back : List (List Char), front ++ back ⊆ [ellipsis] :: T.clusters text →
    T.columns (front.flatten ++ back.flatten) = T.columns front.flatten + T.columns back.flatten

variable {T : Typesetting} {text : List Char}

/-- The clusters kept of a text are its longest end that fits. -/
theorem isLongestEnd_lastClusters (T : Typesetting) (room : Nat) (text : List Char) :
    IsLongestEnd T.columns room (T.clusters text) (T.lastClusters room text) where
  suffix := by
    rw [lastClusters, ← List.reverse_prefix, List.reverse_reverse]
    exact takeFitting_prefix room _
  fits := by
    have hfits : totalColumns T.columns (T.lastClusters room text).reverse ≤ room := by
      rw [lastClusters, List.reverse_reverse]
      exact totalColumns_takeFitting_le room _
    rwa [totalColumns_eq_sum, List.map_reverse, List.sum_reverse] at hfits
  longest more hmore hfits := by
    rw [lastClusters, ← List.reverse_prefix, List.reverse_reverse]
    refine prefix_takeFitting (List.reverse_prefix.2 hmore) ?_
    rwa [totalColumns_eq_sum, List.map_reverse, List.sum_reverse]

theorem AddsUp.columns_flatten (h : T.AddsUp text) {list : List (List Char)}
    (hlist : list ⊆ [ellipsis] :: T.clusters text) :
    T.columns list.flatten = (list.map T.columns).sum := by
  induction list with
  | nil =>
    have hnil : T.columns [] = T.columns [] + T.columns [] := h [] [] (List.nil_subset _)
    show T.columns [] = 0
    omega
  | cons cluster rest ih =>
    have hrest : rest ⊆ [ellipsis] :: T.clusters text :=
      fun x hx => hlist (List.mem_cons_of_mem _ hx)
    have hsum := h [cluster] rest hlist
    rw [List.flatten_singleton] at hsum
    rw [List.flatten_cons, hsum, ih hrest, List.map_cons, List.sum_cons]

theorem visibleTail_of_fits {width : Nat} (h : T.columns text ≤ width) :
    T.visibleTail text width = text := by
  rw [visibleTail, if_pos h]

theorem visibleTail_zero (h : 0 < T.columns text) : T.visibleTail text 0 = [] := by
  rw [visibleTail, if_neg (Nat.not_le.2 h), if_pos rfl]

theorem Lawful.visibleTail_of_lt (hT : T.Lawful) {width : Nat} (hpos : 0 < width)
    (hlt : width < T.columns text) :
    T.visibleTail text width = ellipsis :: (T.lastClusters (width - 1) text).flatten := by
  rw [visibleTail, if_neg (Nat.not_le.2 hlt), if_neg (by omega), hT.columns_ellipsis]

/-- All of a text is shown, or nothing, or its end behind the ellipsis. -/
theorem Lawful.visibleTail_cases (hT : T.Lawful) (text : List Char) (width : Nat) :
    (T.columns text ≤ width ∧ T.visibleTail text width = text) ∨
      (width = 0 ∧ width < T.columns text ∧ T.visibleTail text width = []) ∨
        (0 < width ∧ width < T.columns text ∧
          T.visibleTail text width = ellipsis :: (T.lastClusters (width - 1) text).flatten) := by
  by_cases hfits : T.columns text ≤ width
  · exact .inl ⟨hfits, visibleTail_of_fits hfits⟩
  have hlt := Nat.not_le.1 hfits
  obtain rfl | hpos := Nat.eq_zero_or_pos width
  · exact .inr (.inl ⟨rfl, hlt, visibleTail_zero hlt⟩)
  · exact .inr (.inr ⟨hpos, hlt, hT.visibleTail_of_lt hpos hlt⟩)

theorem Lawful.columns_visibleTail_le (hT : T.Lawful) (h : T.AddsUp text) (width : Nat) :
    T.columns (T.visibleTail text width) ≤ width := by
  obtain ⟨hfits, htail⟩ | ⟨rfl, -, htail⟩ | ⟨hpos, -, htail⟩ := hT.visibleTail_cases text width
  · rwa [htail]
  · rw [htail]
    exact (h.columns_flatten (List.nil_subset _)).le
  · have hlongest := T.isLongestEnd_lastClusters (width - 1) text
    have hkept : [ellipsis] :: T.lastClusters (width - 1) text ⊆ [ellipsis] :: T.clusters text :=
      List.cons_subset_cons _ hlongest.suffix.subset
    have hsum := h.columns_flatten hkept
    have hroom := hlongest.fits
    rw [List.flatten_cons, List.map_cons, List.sum_cons, hT.columns_ellipsis] at hsum
    rw [htail, ← List.singleton_append, hsum]
    omega

theorem Lawful.visibleTail_visibleTail (hT : T.Lawful) (h : T.AddsUp text) (width : Nat) :
    T.visibleTail (T.visibleTail text width) width = T.visibleTail text width :=
  visibleTail_of_fits (hT.columns_visibleTail_le h width)

/-- Less room leaves an end of what more room leaves. -/
theorem Lawful.exists_suffix (hT : T.Lawful) {narrow width : Nat} (hpos : 1 ≤ narrow)
    (hle : narrow ≤ width) (hlt : width < T.columns text) : ∃ kept kept',
      T.visibleTail text narrow = ellipsis :: kept ∧ T.visibleTail text width = ellipsis :: kept' ∧
        kept <:+ kept' := by
  have hshorter := (T.isLongestEnd_lastClusters (narrow - 1) text).mono
    (T.isLongestEnd_lastClusters (width - 1) text) (Nat.sub_le_sub_right hle 1)
  exact ⟨_, _, hT.visibleTail_of_lt hpos (hle.trans_lt hlt),
    hT.visibleTail_of_lt (hpos.trans hle) hlt, flatten_suffix hshorter⟩

section Plain
variable {chars : List Char} (hP : T.PlainOn chars) (h : ∀ c ∈ text, c ∈ chars)
include hP h

theorem PlainOn.lastClusters_flatten (room : Nat) :
    (T.lastClusters room text).flatten = text.drop (text.length - room) := by
  have hclusters := hP.clusters_eq text h
  have hunit : ∀ cluster ∈ (T.clusters text).reverse, T.columns cluster = 1 := by
    intro cluster hcluster
    rw [hclusters, List.mem_reverse] at hcluster
    obtain ⟨c, hc, rfl⟩ := List.mem_map.1 hcluster
    exact hP.columns_eq [c] fun d hd => h d (List.mem_singleton.1 hd ▸ hc)
  rw [lastClusters, takeFitting_eq_take hunit, hclusters, List.take_reverse, List.reverse_reverse,
    List.length_map, ← List.map_drop, ← List.flatMap_def, List.flatMap_singleton']

theorem PlainOn.length_visibleTail (hT : T.Lawful) (width : Nat) :
    (T.visibleTail text width).length = min text.length width := by
  have hcolumns := hP.columns_eq text h
  obtain ⟨hfits, htail⟩ | ⟨rfl, -, htail⟩ | ⟨hpos, hlt, htail⟩ := hT.visibleTail_cases text width
  · rw [htail, Nat.min_eq_left (hcolumns.symm.trans_le hfits)]
  · rw [htail, Nat.min_zero, List.length_nil]
  · rw [htail, hP.lastClusters_flatten h, List.length_cons, List.length_drop]
    omega

theorem PlainOn.visibleTail_subset (hT : T.Lawful) (width : Nat) :
    T.visibleTail text width ⊆ ellipsis :: text := by
  obtain ⟨-, htail⟩ | ⟨-, -, htail⟩ | ⟨-, -, htail⟩ := hT.visibleTail_cases text width
  · rw [htail]
    exact List.subset_cons_self _ _
  · rw [htail]
    exact List.nil_subset _
  · rw [htail, hP.lastClusters_flatten h]
    exact List.cons_subset_cons _ (List.drop_subset _ _)

/-- With two columns or more the last character is seen. -/
theorem PlainOn.getLast?_visibleTail (hT : T.Lawful) {width : Nat} (hwidth : 2 ≤ width) :
    (T.visibleTail text width).getLast? = text.getLast? := by
  obtain ⟨-, htail⟩ | ⟨rfl, -, -⟩ | ⟨-, hlt, htail⟩ := hT.visibleTail_cases text width
  · rw [htail]
  · omega
  · rw [hP.columns_eq text h] at hlt
    have hkept : text.length - (width - 1) < text.length := by omega
    have hne : text.drop (text.length - (width - 1)) ≠ [] := List.drop_eq_nil_iff.not.2 (by omega)
    rw [htail, hP.lastClusters_flatten h, List.getLast?_cons_of_ne_nil hne, List.getLast?_drop,
      if_neg (Nat.not_le.2 hkept)]

end Plain
end Typesetting

open Text

theorem lawful_tailSetting : tailSetting.Lawful where
  flatten_clusters := Text.flatten_clusters
  columns_ellipsis := by decide +kernel

theorem plain_tailSetting : tailSetting.PlainOn shownCharacters where
  clusters_eq _ h := clusters_of_isPlain fun c hc => isPlain_of_mem_shownCharacters (h c hc)
  columns_eq _ h := columns_eq_length fun c hc => hasOwnWidth_of_mem_shownCharacters (h c hc)

/-- Widths add up in a text of characters that have a width of their own. -/
theorem addsUp_of_hasOwnWidth {text : List Char} (h : ∀ c ∈ text, hasOwnWidth .edition15 c) :
    tailSetting.AddsUp text := by
  intro front back hclusters
  have hellipsis : hasOwnWidth .edition15 ellipsis := by decide +kernel
  refine columns_append_of_hasOwnWidth fun c hc => ?_
  rw [← List.flatten_append] at hc
  obtain ⟨cluster, hcluster, hmem⟩ := List.mem_flatten.1 hc
  obtain rfl | hin := List.mem_cons.1 (hclusters hcluster)
  · rwa [List.mem_singleton.1 hmem]
  · refine h c ?_
    rw [← flatten_clusters text]
    exact List.mem_flatten.2 ⟨cluster, hin, hmem⟩

/-- What is shown of a text in some columns: all of it, nothing, or the longest end that fits behind
the ellipsis. In the text of a session every character takes one column. -/
structure ShowsEnd (text : List Char) (width : Nat) : Prop where
  whole : tailColumns text ≤ width → visibleTail text width = text
  nothing : width = 0 → 0 < tailColumns text → visibleTail text width = []
  cut : 0 < width → width < tailColumns text → tailColumns [ellipsis] ≤ width ∧
    ∃ kept, IsLongestEnd tailColumns (width - 1) (clusters text) kept ∧
      visibleTail text width = ellipsis :: kept.flatten
  flatten_clusters : (clusters text).flatten = text
  fits : tailSetting.AddsUp text → tailColumns (visibleTail text width) ≤ width
  again : tailSetting.AddsUp text →
    visibleTail (visibleTail text width) width = visibleTail text width
  less : ∀ narrow, 1 ≤ narrow → narrow ≤ width → width < tailColumns text → ∃ kept kept',
    visibleTail text narrow = ellipsis :: kept ∧ visibleTail text width = ellipsis :: kept' ∧
      kept <:+ kept'
  session : ∀ commands, text = (Session.fresh.run commands).mainText →
    (∀ c ∈ text, tailColumns [c] = 1) ∧ (visibleTail text width).length = min text.length width

theorem showsEnd (text : List Char) (width : Nat) : ShowsEnd text width where
  whole := Typesetting.visibleTail_of_fits
  nothing hwidth hpos := by
    subst hwidth
    exact Typesetting.visibleTail_zero hpos
  cut hpos hlt := ⟨lawful_tailSetting.columns_ellipsis.trans_le hpos, _,
    tailSetting.isLongestEnd_lastClusters (width - 1) text,
    lawful_tailSetting.visibleTail_of_lt hpos hlt⟩
  flatten_clusters := lawful_tailSetting.flatten_clusters text
  fits hadds := lawful_tailSetting.columns_visibleTail_le hadds width
  again hadds := lawful_tailSetting.visibleTail_visibleTail hadds width
  less narrow hpos hle hlt := lawful_tailSetting.exists_suffix hpos hle hlt
  session commands htext := by
    subst htext
    have hshown := (Session.proper_fresh.run commands).mem_shownCharacters
    refine ⟨fun c hc => ?_, plain_tailSetting.length_visibleTail hshown lawful_tailSetting width⟩
    exact plain_tailSetting.columns_eq [c] fun d hd => hshown d (List.mem_singleton.1 hd ▸ hc)

/-- Behind the ellipsis there is no room for half an ideograph, and a mark stays with its letter. -/
theorem showsEnd_ideographs :
    let text := ['七', '×', '八', 'e', '\u0301', '九', '=']
    tailSetting.AddsUp text ∧ visibleTail text 4 = ['…', '九', '='] ∧
      visibleTail text 5 = ['…', 'e', '\u0301', '九', '='] ∧
        tailColumns (visibleTail text 6) ≤ 6 ∧
          visibleTail (visibleTail text 6) 6 = visibleTail text 6 := by
  intro text
  have hadds : tailSetting.AddsUp text :=
    addsUp_of_hasOwnWidth (List.all_iff_forall_prop.1 (by decide +kernel))
  have hshows := showsEnd text 6
  exact ⟨hadds, by decide +kernel, by decide +kernel, hshows.fits hadds, hshows.again hadds⟩

end PocketCalc.Screen
