import PingoraGateway.Binding.Hostname
import PingoraGateway.System.Startup

/-!
# The cluster domain the controller starts with

The resolv.conf a pod gets under the `ClusterFirst` DNS policy has a `search`
line `<ns>.svc.<domain> svc.<domain> <domain> ...`, which is the layout the
comment on `extractClusterDomain` describes. Rendering such a file and parsing
it back gives `<domain>` for every namespace but one: in the namespace `svc` the
first search domain `svc.svc.<domain>` already starts with `svc.`, and the
detected domain is `svc.<domain>`. Whatever the file holds, a detected domain is
a non-empty run of characters without white space that a `search` line lists
after `svc.`, so the controller never starts with an empty cluster domain. Of
the environment, `runController` reads only the variables viper derives from
its keys, which keep their dashes, and `CONTROLLER_NAMESPACE`.
-/

namespace PingoraGateway

/-- A non-empty run of characters without white space. -/
def isWord (w : List Char) : Bool := !w.isEmpty && w.all fun c => !isSpace c

theorem isWord_iff {w : List Char} :
    isWord w = true ↔ w ≠ [] ∧ ∀ c ∈ w, isSpace c = false := by
  simp [isWord, List.all_eq_true, List.isEmpty_iff]

section Words

/-- Words joined by single spaces split back into the words. -/
theorem splitOnP_words : ∀ {w : List Char} {ds : List (List Char)},
    (∀ c ∈ w, isSpace c = false) → (∀ d ∈ ds, ∀ c ∈ d, isSpace c = false) →
    (w ++ ds.flatMap (' ' :: ·)).splitOnP isSpace = w :: ds
  | w, [], hw, _ => by
    simpa using List.splitOnP_eq_single isSpace w fun c hc => by simp [hw c hc]
  | w, d :: ds, hw, hds => by
    rw [List.flatMap_cons, List.cons_append,
      List.splitOnP_first isSpace w (fun c hc => by simp [hw c hc]) ' ' rfl,
      splitOnP_words (hds d (List.mem_cons_self _ _)) fun d' hd' =>
        hds d' (List.mem_cons_of_mem _ hd')]

/-- `strings.Fields` of words joined by single spaces is the words. -/
theorem fields_words {w : List Char} {ds : List (List Char)} (hw : isWord w = true)
    (hds : ∀ d ∈ ds, isWord d = true) : fields (w ++ ds.flatMap (' ' :: ·)) = w :: ds := by
  rw [fields, splitOnP_words (isWord_iff.mp hw).2 fun d hd => (isWord_iff.mp (hds d hd)).2,
    List.filter_eq_self]
  intro d hd
  rcases List.mem_cons.mp hd with rfl | hd
  · simpa [isWord] using (isWord_iff.mp hw).1
  · simpa [List.isEmpty_iff] using (isWord_iff.mp (hds d hd)).1

/-- Words joined by single spaces end in a character that is not white space. -/
theorem words_eq_concat : ∀ {w : List Char} {ds : List (List Char)},
    (∃ m c, w = m ++ [c] ∧ isSpace c = false) → (∀ d ∈ ds, isWord d = true) →
    ∃ m c, w ++ ds.flatMap (' ' :: ·) = m ++ [c] ∧ isSpace c = false
  | w, [], hw, _ => by simpa using hw
  | w, d :: ds, _, hds => by
    obtain ⟨hd, hdc⟩ := isWord_iff.mp (hds d (List.mem_cons_self _ _))
    obtain rfl | ⟨m, c, rfl⟩ := List.eq_nil_or_concat d
    · exact absurd rfl hd
    have h := words_eq_concat (w := w ++ ' ' :: m ++ [c]) ⟨w ++ ' ' :: m, c, rfl,
      hdc c (by simp)⟩ fun d' hd' => hds d' (List.mem_cons_of_mem _ hd')
    simpa using h

/-- Every piece `splitOnP` cuts is free of the separators. -/
theorem not_of_mem_splitOnP {p : Char → Bool} : ∀ {l f : List Char}, f ∈ l.splitOnP p →
    ∀ c ∈ f, p c = false
  | [], f, hf => by simp_all
  | x :: l, f, hf => by
    rw [List.splitOnP_cons] at hf
    split at hf
    · rcases List.mem_cons.mp hf with rfl | hf
      exacts [by simp, not_of_mem_splitOnP hf]
    · rename_i hx
      obtain ⟨g, gs, hg⟩ := List.exists_cons_of_ne_nil (List.splitOnP_ne_nil p l)
      rw [hg, List.modifyHead_cons] at hf
      rcases List.mem_cons.mp hf with rfl | hf
      · intro c hc
        rcases List.mem_cons.mp hc with rfl | hc
        exacts [by simpa using hx, not_of_mem_splitOnP (hg ▸ List.mem_cons_self g gs) c hc]
      · exact not_of_mem_splitOnP (hg ▸ List.mem_cons_of_mem g hf)

/-- Every field is a word. -/
theorem isWord_of_mem_fields {s f : List Char} (hf : f ∈ fields s) : isWord f = true := by
  rw [fields, List.mem_filter] at hf
  simpa [isWord, List.isEmpty_iff, List.all_eq_true] using
    And.intro hf.2 (not_of_mem_splitOnP hf.1)

/-- The characters of a DNS label are neither white space nor dots. -/
theorem isSpace_of_isLabelChar {c : Char} (h : isLabelChar c = true) :
    isSpace c = false ∧ c ≠ '.' := by
  have h' : (97 ≤ c.toNat ∧ c.toNat ≤ 122) ∨ (48 ≤ c.toNat ∧ c.toNat ≤ 57) ∨
      c.toNat = 45 := by
    simp only [isLabelChar, Char.isLower, Char.isDigit, Bool.or_eq_true, Bool.and_eq_true,
      decide_eq_true_eq, beq_iff_eq] at h
    rcases h with (h | h) | rfl
    exacts [.inl h, .inr (.inl h), .inr (.inr rfl)]
  refine ⟨?_, fun hc => by subst hc; simp at h'⟩
  simp only [isSpace, whiteSpaceRanges, List.any_cons, List.any_nil, Bool.or_false,
    Bool.or_eq_false_iff, Bool.and_eq_false_iff, decide_eq_false_iff_not]
  omega

/-- A DNS label is a word without dots. -/
theorem isLabel_chars {l : List Char} (h : isLabel l = true) :
    l ≠ [] ∧ ∀ c ∈ l, isSpace c = false ∧ c ≠ '.' := by
  unfold isLabel at h
  split at h
  · rename_i a b ha _
    simp only [Bool.and_eq_true, List.all_eq_true] at h
    exact ⟨fun hl => by simp [hl] at ha, fun c hc => isSpace_of_isLabelChar (h.1.1 c hc)⟩
  · cases h

end Words

section Lines

/-- A line ending in a character other than white space has no `\r` to drop. -/
theorem dropCR_concat {m : List Char} {c : Char} (hc : isSpace c = false) :
    dropCR (m ++ [c]) = m ++ [c] := by
  have hcr : c ≠ '\r' := by rintro rfl; exact absurd hc (by decide)
  simp [dropCR, hcr]

/-- `dropCR` keeps a first character that is not white space. -/
theorem dropCR_cons {a : Char} (ha : isSpace a = false) (t : List Char) :
    ∃ t', dropCR (a :: t) = a :: t' := by
  unfold dropCR
  split
  · rename_i h
    cases t with
    | nil =>
      obtain rfl : a = '\r' := by simpa using h
      exact absurd ha (by decide)
    | cons b t => exact ⟨(b :: t).dropLast, rfl⟩
  · exact ⟨t, rfl⟩

/-- `TrimSpace` keeps a first character that is not white space. -/
theorem trimSpace_cons {a : Char} (ha : isSpace a = false) (t : List Char) :
    ∃ t', trimSpace (a :: t) = a :: t' := by
  rw [trimSpace, List.dropWhile_cons_of_neg (by simp [ha])]
  obtain ⟨u, hu⟩ := List.rdropWhile_prefix isSpace (a :: t)
  rcases h : List.rdropWhile isSpace (a :: t) with _ | ⟨b, t'⟩
  · exact absurd (List.rdropWhile_eq_nil_iff.mp h a (List.mem_cons_self _ _)) (by simp [ha])
  · rw [h, List.cons_append, List.cons.injEq] at hu
    exact ⟨t', by rw [hu.1]⟩

/-- `TrimSpace` keeps a line that starts and ends with characters other than
white space. -/
theorem trimSpace_of_ends {a c : Char} {t m : List Char} (ha : isSpace a = false)
    (hc : isSpace c = false) (h : a :: t = m ++ [c]) : trimSpace (a :: t) = a :: t := by
  rw [trimSpace, List.dropWhile_cons_of_neg (by simp [ha]), h,
    List.rdropWhile_concat_neg isSpace m c (by simp [hc])]

/-- `ScanLines` cuts a line at its newline. -/
theorem scanLinesLoop_line : ∀ (l rest line : List Char), '\n' ∉ l →
    scanLinesLoop (l ++ '\n' :: rest) line = dropCR (line ++ l) :: scanLinesLoop rest []
  | [], rest, line, _ => by simp [scanLinesLoop]
  | c :: l, rest, line, h => by
    have hc : c ≠ '\n' := fun e => h (e ▸ List.mem_cons_self _ _)
    rw [List.cons_append, scanLinesLoop, if_neg hc,
      scanLinesLoop_line l rest (line ++ [c]) fun hl => h (List.mem_cons_of_mem _ hl)]
    simp

/-- `ScanLines` gives back lines written one after another, each ended by a
newline, up to a final `\r`. -/
theorem scanLinesLoop_lines : ∀ (ls : List (List Char)) (rest : List Char),
    (∀ l ∈ ls, '\n' ∉ l) →
    scanLinesLoop (ls.flatMap (· ++ ['\n']) ++ rest) [] = ls.map dropCR ++ scanLinesLoop rest []
  | [], _, _ => rfl
  | l :: ls, rest, h => by
    rw [List.flatMap_cons, List.append_assoc, List.append_assoc, List.singleton_append,
      scanLinesLoop_line l _ [] (h l (List.mem_cons_self _ _)),
      scanLinesLoop_lines ls rest fun l' hl' => h l' (List.mem_cons_of_mem _ hl')]
    rfl

end Lines

section Extract

theorem svcPrefix_eq : svcPrefix = ['s', 'v', 'c', '.'] := rfl

/-- One step of `extractClusterDomain`. -/
theorem extractClusterDomain_cons (d : List Char) (ds : List (List Char)) :
    extractClusterDomain (d :: ds) =
      if svcPrefix.isPrefixOf d && !(d.drop svcPrefix.length).isEmpty then d.drop svcPrefix.length
      else extractClusterDomain ds := by
  simp only [extractClusterDomain, cutPrefix]
  split <;> simp_all

/-- A search domain that does not start with `svc.` is passed over. -/
theorem extractClusterDomain_cons_of_not {d : List Char} (h : svcPrefix.isPrefixOf d = false)
    (ds : List (List Char)) : extractClusterDomain (d :: ds) = extractClusterDomain ds := by
  simp [extractClusterDomain_cons, h]

/-- `svc.<domain>` with a non-empty domain gives the domain. -/
theorem extractClusterDomain_svc {domain : List Char} (h : domain ≠ [])
    (ds : List (List Char)) : extractClusterDomain ((svcPrefix ++ domain) :: ds) = domain := by
  simp [extractClusterDomain_cons, h, List.isEmpty_iff]

/-- A found domain follows `svc.` in one of the search domains. -/
theorem svcPrefix_append_mem : ∀ {ds : List (List Char)}, extractClusterDomain ds ≠ [] →
    svcPrefix ++ extractClusterDomain ds ∈ ds
  | [], h => absurd rfl h
  | d :: ds, h => by
    rw [extractClusterDomain_cons] at h ⊢
    split
    · rename_i hp
      obtain ⟨rest, rfl⟩ := List.isPrefixOf_iff_prefix.mp (Bool.and_eq_true _ _ ▸ hp).1
      simp
    · rw [if_neg ‹_›] at h
      exact List.mem_cons_of_mem _ (svcPrefix_append_mem h)

/-- A name of one label followed by a dot starts with `svc.` only for the label
`svc`. -/
theorem svcPrefix_isPrefixOf_label_dot : ∀ {ns : List Char} (rest : List Char), '.' ∉ ns →
    ns ≠ "svc".data → svcPrefix.isPrefixOf (ns ++ '.' :: rest) = false
  | [], _, _, _ => rfl
  | [_], _, _, _ => by simp [svcPrefix_eq, List.isPrefixOf]
  | [_, _], _, _, _ => by simp [svcPrefix_eq, List.isPrefixOf]
  | [a, b, c], _, _, hne => by
    simp only [svcPrefix_eq, List.cons_append, List.nil_append, List.isPrefixOf, beq_self_eq_true,
      Bool.and_true, Bool.and_eq_false_iff, beq_eq_false_iff_ne]
    by_contra h
    push_neg at h
    exact hne (by rw [← h.1, ← h.2.1, ← h.2.2])
  | a :: b :: c :: d :: t, _, hdot, _ => by
    have hd : '.' ≠ d := fun h => hdot (by simp only [h, List.mem_cons, true_or, or_true])
    simp [svcPrefix_eq, List.isPrefixOf, hd]

end Extract

section Parse

/-- A line that, trimmed, starts with a character other than `s`, `#` and `;`
is passed over. -/
theorem parseResolvConfLines_skip {line t : List Char} {a : Char} (h : trimSpace line = a :: t)
    (ha : a ∉ ['s', '#', ';']) (lines : List (List Char)) :
    parseResolvConfLines (line :: lines) = parseResolvConfLines lines := by
  simp only [List.mem_cons, List.mem_singleton, List.not_mem_nil, not_or, or_false] at ha
  simp [parseResolvConfLines, h, searchPrefix, List.isPrefixOf, Ne.symm ha.1, Ne.symm ha.2.1,
    Ne.symm ha.2.2]

/-- Lines that each start with a character other than white space, `s`, `#`
and `;` are passed over. -/
theorem parseResolvConfLines_append_skipped : ∀ (pre lines : List (List Char)),
    (∀ l ∈ pre, ∃ a t, l = a :: t ∧ isSpace a = false ∧ a ∉ ['s', '#', ';']) →
    parseResolvConfLines (pre.map dropCR ++ lines) = parseResolvConfLines lines
  | [], _, _ => rfl
  | l :: pre, lines, h => by
    obtain ⟨a, t, rfl, hs, ha⟩ := h l (List.mem_cons_self _ _)
    obtain ⟨t', ht'⟩ := dropCR_cons hs t
    obtain ⟨t'', ht''⟩ := trimSpace_cons hs t'
    rw [List.map_cons, List.cons_append, parseResolvConfLines_skip (ht' ▸ ht'') ha,
      parseResolvConfLines_append_skipped pre lines fun l hl => h l (List.mem_cons_of_mem _ hl)]

/-- The `search` line listing the given domains. -/
def searchLine (searches : List (List Char)) : List Char :=
  "search".data ++ searches.flatMap (' ' :: ·)

/-- A `search` line of words that lists a cluster domain ends the scan with it. -/
theorem parseResolvConfLines_searchLine {ds : List (List Char)}
    (hds : ∀ d ∈ ds, isWord d = true) (hx : extractClusterDomain ds ≠ [])
    (lines : List (List Char)) :
    parseResolvConfLines (dropCR (searchLine ds) :: lines) =
      (⟨extractClusterDomain ds⟩, true) := by
  obtain ⟨m, c, hmc, hc⟩ :=
    words_eq_concat (w := "search".data) ⟨"searc".data, 'h', rfl, rfl⟩ hds
  obtain ⟨d, ds', rfl⟩ := List.exists_cons_of_ne_nil fun h : ds = [] => hx (h ▸ rfl)
  have htrim : trimSpace (searchLine (d :: ds')) = searchLine (d :: ds') :=
    trimSpace_of_ends (a := 's') rfl hc hmc
  have hsearch : searchPrefix.isPrefixOf (searchLine (d :: ds')) = true :=
    List.isPrefixOf_iff_prefix.mpr ⟨d ++ ds'.flatMap (' ' :: ·), rfl⟩
  have hfields : fields (searchLine (d :: ds')) = "search".data :: d :: ds' :=
    fields_words (by decide) hds
  have hdrop : dropCR (searchLine (d :: ds')) = searchLine (d :: ds') := by
    rw [searchLine, hmc, dropCR_concat hc]
  simp only [parseResolvConfLines, hdrop, htrim, hsearch, hfields, List.drop_one, List.tail_cons]
  simp [searchLine, List.isEmpty_iff, hx]

/-- A pod's `/etc/resolv.conf` as the kubelet writes it: the nameserver lines,
the search line and the options line. -/
structure PodResolvConf where
  nameservers : List (List Char)
  searches : List (List Char)
  options : List (List Char)
  deriving DecidableEq, Repr

/-- The file's lines. -/
def PodResolvConf.lines (r : PodResolvConf) : List (List Char) :=
  r.nameservers.map ("nameserver ".data ++ ·) ++
    [searchLine r.searches, "options".data ++ r.options.flatMap (' ' :: ·)]

/-- The file's text: each line ended by a newline. -/
def PodResolvConf.render (r : PodResolvConf) : String :=
  ⟨r.lines.flatMap (· ++ ['\n'])⟩

/-- Parsing a rendered file gives the cluster domain its search domains list. -/
theorem parseResolvConf_render (r : PodResolvConf) (hns : ∀ x ∈ r.nameservers, '\n' ∉ x)
    (hs : ∀ d ∈ r.searches, isWord d = true) (hx : extractClusterDomain r.searches ≠ []) :
    parseResolvConf r.render = (⟨extractClusterDomain r.searches⟩, true) := by
  have hsearch : '\n' ∉ searchLine r.searches := by
    simp only [searchLine, List.mem_append, List.mem_flatMap, List.mem_cons, not_or, not_exists,
      not_and]
    exact ⟨by decide, fun d hd => ⟨by decide, fun hn =>
      absurd ((isWord_iff.mp (hs d hd)).2 _ hn) (by decide)⟩⟩
  have hlines : r.lines = (r.nameservers.map ("nameserver ".data ++ ·) ++ [searchLine r.searches])
      ++ ["options".data ++ r.options.flatMap (' ' :: ·)] := by
    simp [PodResolvConf.lines]
  rw [parseResolvConf, PodResolvConf.render, scanLines, hlines, List.flatMap_append,
    scanLinesLoop_lines]
  · rw [List.map_append, List.append_assoc, parseResolvConfLines_append_skipped]
    · exact parseResolvConfLines_searchLine hs hx _
    · intro l hl
      obtain ⟨x, -, rfl⟩ := List.mem_map.mp hl
      exact ⟨'n', "ameserver ".data ++ x, rfl, by decide, by decide⟩
  · intro l hl
    rcases List.mem_append.mp hl with hl | hl
    · obtain ⟨x, hx, rfl⟩ := List.mem_map.mp hl
      exact fun h => (List.mem_append.mp h).elim (by decide) (hns x hx)
    · rw [List.mem_singleton.mp hl]
      exact hsearch

/-- The search domains of a pod in namespace `ns` under the `ClusterFirst` DNS
policy, then the node's own. -/
def clusterFirstSearches (ns clusterDomain : List Char) (hostSearches : List (List Char)) :
    List (List Char) :=
  (ns ++ ".svc.".data ++ clusterDomain) :: (svcPrefix ++ clusterDomain) :: clusterDomain ::
    hostSearches

/-- One step of the scan: a line is passed over, or it is a `search` line that
lists a cluster domain and ends the scan with it. -/
theorem parseResolvConfLines_cons (line : List Char) (lines : List (List Char)) :
    parseResolvConfLines (line :: lines) = parseResolvConfLines lines ∨
      searchPrefix.isPrefixOf (trimSpace line) = true ∧
      extractClusterDomain ((fields (trimSpace line)).drop 1) ≠ [] ∧
      parseResolvConfLines (line :: lines) =
        (⟨extractClusterDomain ((fields (trimSpace line)).drop 1)⟩, true) := by
  simp only [parseResolvConfLines]
  split
  · exact .inl rfl
  split
  · split
    · rename_i hs hx
      exact .inr ⟨hs, by simpa [List.isEmpty_iff] using hx, rfl⟩
    · exact .inl rfl
  · exact .inl rfl

/-- The scan finds nothing, or a word that a `search` line lists after `svc.`. -/
theorem parseResolvConfLines_sound : ∀ lines : List (List Char),
    parseResolvConfLines lines = ("", false) ∨ ∃ line ∈ lines,
      searchPrefix.isPrefixOf (trimSpace line) = true ∧ ∃ domain, isWord domain = true ∧
        svcPrefix ++ domain ∈ fields (trimSpace line) ∧
        parseResolvConfLines lines = (⟨domain⟩, true)
  | [] => .inl rfl
  | line :: lines => by
    rcases parseResolvConfLines_cons line lines with h | ⟨hs, hx, h⟩
    · rw [h]
      exact (parseResolvConfLines_sound lines).imp_right
        fun ⟨l, hl, rest⟩ => ⟨l, List.mem_cons_of_mem _ hl, rest⟩
    · have hmem := List.mem_of_mem_drop (svcPrefix_append_mem hx)
      have hw := isWord_iff.mp (isWord_of_mem_fields hmem)
      exact .inr ⟨line, List.mem_cons_self _ _, hs, _,
        isWord_iff.mpr ⟨hx, fun c hc => hw.2 c (List.mem_append_right _ hc)⟩, hmem, h⟩

end Parse

section Startup

variable (env : StartupEnv)

/-- With no domain configured, the controller takes the one the file gives. -/
theorem runControllerConfig_clusterDomain_of_parse
    (hcfg : env.viper.getString "cluster-domain" = "") {content : String}
    (hfile : env.resolvConf = some content) {domain : String}
    (h : parseResolvConf content = (domain, true)) :
    (runControllerConfig env).clusterDomain = domain := by
  simp [runControllerConfig, resolveClusterDomain, hcfg, hfile, detectClusterDomainFromFile, h]

/-- The controller never starts with an empty cluster domain: it starts with the
configured one, or with a word that a `search` line of its resolv.conf lists
after `svc.`, or with `cluster.local`. -/
theorem runControllerConfig_clusterDomain :
    (runControllerConfig env).clusterDomain ≠ "" ∧
    ((runControllerConfig env).clusterDomain = env.viper.getString "cluster-domain" ∨
      (∃ content, env.resolvConf = some content ∧ ∃ line ∈ scanLines content.data,
        searchPrefix.isPrefixOf (trimSpace line) = true ∧
        isWord (runControllerConfig env).clusterDomain.data = true ∧
        svcPrefix ++ (runControllerConfig env).clusterDomain.data ∈ fields (trimSpace line)) ∨
      (runControllerConfig env).clusterDomain = defaultClusterDomain) := by
  by_cases hcfg : env.viper.getString "cluster-domain" = ""
  · rcases hfile : env.resolvConf with _ | content
    · have h : (runControllerConfig env).clusterDomain = defaultClusterDomain := by
        simp [runControllerConfig, resolveClusterDomain, hcfg, hfile, detectClusterDomainFromFile]
      exact ⟨h ▸ by decide, .inr (.inr h)⟩
    rcases parseResolvConfLines_sound (scanLines content.data) with
      hp | ⟨line, hl, hs, domain, hw, hf, hp⟩
    · have h : (runControllerConfig env).clusterDomain = defaultClusterDomain := by
        simp [runControllerConfig, resolveClusterDomain, hcfg, hfile, detectClusterDomainFromFile,
          parseResolvConf, hp]
      exact ⟨h ▸ by decide, .inr (.inr h)⟩
    · have h := runControllerConfig_clusterDomain_of_parse env hcfg hfile hp
      refine ⟨h ▸ fun he => (isWord_iff.mp hw).1 (congrArg String.data he),
        .inr (.inl ⟨content, rfl, line, hl, hs, ?_⟩)⟩
      rw [h]
      exact ⟨hw, hf⟩
  · have h : (runControllerConfig env).clusterDomain = env.viper.getString "cluster-domain" := by
      simp [runControllerConfig, resolveClusterDomain, hcfg]
    exact ⟨h ▸ hcfg, .inl h⟩

variable {env}

/-- The search domains a pod gets are words when its namespace is a label and
the domains are words. -/
theorem clusterFirstSearches_words {ns clusterDomain : List Char} {hostSearches : List (List Char)}
    (hns : isLabel ns = true) (hd : isWord clusterDomain = true)
    (hhost : ∀ h ∈ hostSearches, isWord h = true) :
    ∀ d ∈ clusterFirstSearches ns clusterDomain hostSearches, isWord d = true := by
  have hD := isWord_iff.mp hd
  have hN := isLabel_chars hns
  have happ : ∀ u : List Char, (∀ c ∈ u, isSpace c = false) →
      isWord (u ++ clusterDomain) = true :=
    fun u hu => isWord_iff.mpr ⟨by simp [hD.1], fun c hc =>
      (List.mem_append.mp hc).elim (hu c) (hD.2 c)⟩
  have hsvc : ∀ c ∈ ".svc.".data, isSpace c = false := by decide
  intro d hd'
  rcases List.mem_cons.mp hd' with rfl | hd'
  · exact happ _ fun c hc => (List.mem_append.mp hc).elim (fun hc => (hN.2 c hc).1) (hsvc c)
  rcases List.mem_cons.mp hd' with rfl | hd'
  · exact happ _ (by decide)
  rcases List.mem_cons.mp hd' with rfl | hd'
  exacts [hd, hhost d hd']

/-- With no cluster domain configured, a controller in a pod of a namespace
other than `svc` detects the cluster domain from the resolv.conf the kubelet
writes, and its route syncer builds backend addresses under it. -/
theorem clusterFirst_resolvConf_detects_domain {ns clusterDomain : List Char}
    {hostSearches nameservers options : List (List Char)} (hns : isLabel ns = true)
    (hsvc : ns ≠ "svc".data) (hd : isWord clusterDomain = true)
    (hhost : ∀ h ∈ hostSearches, isWord h = true) (hnl : ∀ x ∈ nameservers, '\n' ∉ x)
    (hcfg : env.viper.getString "cluster-domain" = "")
    (hfile : env.resolvConf = some (PodResolvConf.render
      ⟨nameservers, clusterFirstSearches ns clusterDomain hostSearches, options⟩)) :
    (runControllerConfig env).clusterDomain = ⟨clusterDomain⟩ ∧
    (runControllerConfig env).newSyncer.builder = ⟨⟨clusterDomain⟩⟩ := by
  have hx : extractClusterDomain (clusterFirstSearches ns clusterDomain hostSearches) =
      clusterDomain := by
    rw [clusterFirstSearches, extractClusterDomain_cons_of_not, extractClusterDomain_svc
      (isWord_iff.mp hd).1]
    rw [List.append_assoc]
    exact svcPrefix_isPrefixOf_label_dot _ (fun h => ((isLabel_chars hns).2 _ h).2 rfl) hsvc
  have h := runControllerConfig_clusterDomain_of_parse env hcfg hfile
    (parseResolvConf_render _ hnl (clusterFirstSearches_words hns hd hhost)
      (by dsimp only; rw [hx]; exact (isWord_iff.mp hd).1))
  rw [hx] at h
  exact ⟨h, by rw [ControllerConfig.newSyncer, PingoraRouteSyncer.builder, h]; rfl⟩

/-- A controller started with nothing configured, in a pod of `default` on a
cluster with the domain `cluster.local`. -/
def defaultPodEnv (searches : List (List Char)) : StartupEnv :=
  ⟨⟨[], []⟩,
    some (PodResolvConf.render ⟨["10.96.0.10".data], searches, ["ndots:5".data]⟩), none⟩

theorem default_pod_detects_cluster_local :
    isLabel "default".data = true ∧ "default".data ≠ "svc".data ∧
    isWord "cluster.local".data = true ∧
    (defaultPodEnv (clusterFirstSearches "default".data "cluster.local".data [])).viper.getString
      "cluster-domain" = "" ∧
    (runControllerConfig (defaultPodEnv (clusterFirstSearches "default".data "cluster.local".data
      []))).clusterDomain = ⟨"cluster.local".data⟩ ∧
    (runControllerConfig (defaultPodEnv (clusterFirstSearches "default".data "cluster.local".data
      []))).newSyncer.builder = ⟨⟨"cluster.local".data⟩⟩ :=
  ⟨by decide, by decide, by decide, by decide,
    clusterFirst_resolvConf_detects_domain (by decide) (by decide) (by decide) (by decide)
      (by decide) (by decide) rfl⟩

/-- In a pod of the namespace `svc` the first search domain `svc.svc.<domain>`
starts with `svc.`, and the controller detects `svc.<domain>` in place of the
cluster domain. -/
theorem svc_namespace_detects_wrong_domain {clusterDomain : List Char}
    {hostSearches nameservers options : List (List Char)} (hd : isWord clusterDomain = true)
    (hhost : ∀ h ∈ hostSearches, isWord h = true) (hnl : ∀ x ∈ nameservers, '\n' ∉ x)
    (hcfg : env.viper.getString "cluster-domain" = "")
    (hfile : env.resolvConf = some (PodResolvConf.render
      ⟨nameservers, clusterFirstSearches "svc".data clusterDomain hostSearches, options⟩)) :
    (runControllerConfig env).clusterDomain = ⟨svcPrefix ++ clusterDomain⟩ := by
  have hx : extractClusterDomain (clusterFirstSearches "svc".data clusterDomain hostSearches) =
      svcPrefix ++ clusterDomain := by
    have hfirst : "svc".data ++ ".svc.".data ++ clusterDomain =
        svcPrefix ++ (svcPrefix ++ clusterDomain) := by
      rw [← List.append_assoc]
      rfl
    rw [clusterFirstSearches, hfirst, extractClusterDomain_svc (by simp [svcPrefix_eq])]
  have h := runControllerConfig_clusterDomain_of_parse env hcfg hfile
    (parseResolvConf_render _ hnl (clusterFirstSearches_words (by decide) hd hhost)
      (by dsimp only; rw [hx]; simp [svcPrefix_eq]))
  rwa [hx] at h

theorem svc_pod_detects_svc_cluster_local :
    isWord "cluster.local".data = true ∧
    (defaultPodEnv (clusterFirstSearches "svc".data "cluster.local".data [])).viper.getString
      "cluster-domain" = "" ∧
    (runControllerConfig (defaultPodEnv (clusterFirstSearches "svc".data "cluster.local".data
      []))).clusterDomain = ⟨svcPrefix ++ "cluster.local".data⟩ :=
  ⟨by decide, by decide,
    svc_namespace_detects_wrong_domain (by decide) (by decide) (by decide) (by decide) rfl⟩

/-- The keys `runController` and `setupLogger` read through viper. -/
def settingKeys : List String :=
  ["cluster-domain", "gateway-class-name", "controller-name", "metrics-addr", "health-addr",
    "leader-elect", "leader-election-namespace", "leader-election-name", "log-level",
    "log-format"]

/-- The environment variables `runController` and `Run` read. -/
def startupEnvNames : List String :=
  settingKeys.map (envKey "PINGORA") ++ ["CONTROLLER_NAMESPACE"]

/-- The start environment with one more variable set. -/
def StartupEnv.setenv (env : StartupEnv) (name value : String) : StartupEnv :=
  { env with viper := { env.viper with environ := (name, value) :: env.viper.environ } }

theorem lookup_cons_of_ne {name key : String} (value : String) (es : List (String × String))
    (h : key ≠ name) : ((name, value) :: es).lookup key = es.lookup key := by
  rw [List.lookup_cons, beq_false_of_ne h]

/-- A variable other than a key's is not read for the key. -/
theorem getString_setenv (env : StartupEnv) {name : String} (value : String) {key : String}
    (h : envKey "PINGORA" key ≠ name) :
    (env.setenv name value).viper.getString key = env.viper.getString key := by
  simp only [StartupEnv.setenv, Viper.getString, lookup_cons_of_ne _ _ h]

/-- Setting an environment variable other than the eleven `startupEnvNames`,
such as the `PINGORA_CLUSTER_DOMAIN` the comment on `resolveClusterDomain`
names, leaves the controller's configuration as it was. -/
theorem runControllerConfig_setenv (env : StartupEnv) {name : String} (value : String)
    (hn : name ∉ startupEnvNames) : runControllerConfig (env.setenv name value) =
      runControllerConfig env := by
  have hkey : ∀ key ∈ settingKeys, envKey "PINGORA" key ≠ name := fun key hk h =>
    hn (List.mem_append_left _ (h ▸ List.mem_map_of_mem _ hk))
  have hns : "CONTROLLER_NAMESPACE" ≠ name := fun h =>
    hn (List.mem_append_right _ (h ▸ List.mem_singleton_self _))
  simp (disch := apply hkey; decide) only [runControllerConfig, setupLogger,
    Viper.getBool, getString_setenv]
  simp only [StartupEnv.setenv, getControllerNamespace, getenv, lookup_cons_of_ne _ _ hns]

theorem cluster_domain_variable_unread :
    "PINGORA_CLUSTER_DOMAIN" ∉ startupEnvNames ∧
    runControllerConfig ((defaultPodEnv []).setenv "PINGORA_CLUSTER_DOMAIN" "example.org") =
      runControllerConfig (defaultPodEnv []) :=
  ⟨by decide, runControllerConfig_setenv _ _ (by decide)⟩

end Startup

end PingoraGateway
