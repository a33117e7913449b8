import Vitae.Proofs.Section.Rollback

/-! What a page keeps while anything is done to it, directly or by the router. Links may be
pointed elsewhere but are never taken down, which is what going back rests on: highlights read
from the page at one time can be put back at any later time, all of them and nothing else. The
link found for a section follows from the last target that every link was given. -/

namespace Vitae
open Std

/-- The link that a command points, and the section it points it to. -/
def Page.Command.pointer? : Page.Command → Option (String × String)
  | .addLink link target => some (link, target)
  | _ => none

def Action.pointer? : Action → Option (String × String)
  | .page command => command.pointer?
  | _ => none

namespace Page

/-- Where a link leads, of all the links pointed in order: to its last target. -/
def targetOf? (pointed : List (String × String)) (link : String) : Option String :=
  pointed.reverse.lookup link

/-- The pages that things begin with, and the links pointed on them. -/
inductive Fresh : List (String × String) → Page → Prop
  | bare : Fresh [] empty
  | drawn (catalog : Catalog) : Fresh (catalog.sections.map fun id => (linkName id, id)) (ofCatalog catalog)

/-- What becomes of a page, and the links pointed meanwhile. Commands are carried out directly,
or a router that holds the page is asked for anything, time included. -/
inductive Becomes (page : Page) : List (String × String) → Page → Prop
  | same : Becomes page [] page
  | equipped {pointed later} (becomes : Becomes page pointed later) : Becomes page pointed later.withHaptics
  | handled {pointed later} (becomes : Becomes page pointed later) (command : Command) :
      Becomes page (pointed ++ command.pointer?.toList) (later.handle command).1
  | performed {pointed} (router : Router) (becomes : Becomes page pointed router.page) (action : Action) :
      Becomes page (pointed ++ action.pointer?.toList) (router.perform action).1.page

theorem targetOf?_append (pointed more : List (String × String)) (link : String) :
    targetOf? (pointed ++ more) link = (targetOf? more link).or (targetOf? pointed link) := by
  rw [targetOf?, List.reverse_append, List.lookup_append]
  rfl

/-- A command points the link it names and no other. -/
theorem getElem?_links_handle (page : Page) (command : Command) (link : String) :
    (page.handle command).1.links[link]? = (targetOf? command.pointer?.toList link).or page.links[link]? := by
  cases command with
  | addLink named target =>
    simp only [handle, addLink, ExtTreeMap.getElem?_insert, LawfulEqCmp.compare_eq_iff_eq, Command.pointer?, targetOf?,
      Option.toList_some, List.reverse_singleton, List.lookup_cons, List.lookup_nil]
    by_cases same : link = named
    · simp [same]
    · simp [beq_false_of_ne same, Ne.symm same]
  | activate id => exact congrArg (·[link]?) (page.links_activate id)
  | highlight named => exact congrArg (·[link]?) (page.links_highlight named)
  | _ => rfl

end Page

/-- The router highlights links but points none. -/
theorem Router.Effect.links_eq {router later : Router} {action : Action} {reply : Reply}
    (effect : Effect router action later reply) (routed : action.isRouted = true) :
    later.page.links = router.page.links := by
  cases effect with
  | kept | waited | lapsed => rfl
  | departed => exact links_mark _ _ _
  | walked => exact links_mark _ _ _
  | arrived => exact router.links_arrive
  | handled | closed => cases routed

theorem Router.getElem?_links_perform (router : Router) (action : Action) (link : String) :
    (router.perform action).1.page.links[link]? =
      (Page.targetOf? action.pointer?.toList link).or router.page.links[link]? := by
  cases action with
  | page command => exact router.page.getElem?_links_handle command link
  | close => rfl
  | _ => exact congrArg (·[link]?) ((effect_perform _).links_eq rfl)

namespace Page

namespace Fresh
variable {drawn : List (String × String)} {page : Page} (fresh : Fresh drawn page)
include fresh

theorem getElem?_links (link : String) : page.links[link]? = targetOf? drawn link := by
  cases fresh with
  | bare => rfl
  | drawn catalog =>
    apply ofCatalog_drawn
      (motive := fun ids page => page.links[link]? = targetOf? (ids.map fun id => (linkName id, id)) link) rfl
    intro ids page id leads
    have pointed := (page.addSection id).getElem?_links_handle (.addLink (linkName id) id) link
    rw [List.map_append, targetOf?_append, ← leads]
    exact pointed

theorem sound : page.Sound := by
  cases fresh with
  | bare => exact .of_hidden rfl
  | drawn catalog => exact .of_hidden (shown_ofCatalog catalog)

theorem linked : page.Linked := by
  cases fresh with
  | bare => exact .of_bare rfl
  | drawn catalog => exact .of_bare (highlighted_ofCatalog catalog)

end Fresh

namespace Becomes
variable {page later : Page} {pointed : List (String × String)} (becomes : Becomes page pointed later)
include becomes

theorem getElem?_links (link : String) : later.links[link]? = (targetOf? pointed link).or page.links[link]? := by
  induction becomes with
  | same => rfl
  | equipped _ ih => exact ih
  | @handled _ later _ command ih => rw [later.getElem?_links_handle, ih, targetOf?_append, Option.or_assoc]
  | performed router _ action ih => rw [router.getElem?_links_perform, ih, targetOf?_append, Option.or_assoc]

/-- Links stay up. -/
theorem mem_links {link : String} (there : link ∈ page.links) : link ∈ later.links := by
  rw [ExtTreeMap.mem_iff_isSome_getElem?] at there ⊢
  rw [becomes.getElem?_links, Option.isSome_or, there, Bool.or_true]

theorem sound (now : page.Sound) : later.Sound := by
  induction becomes with
  | same => exact now
  | equipped _ ih => exact ih.of_unchanged rfl rfl
  | handled _ command ih => exact ih.handle command
  | performed _ _ _ ih => exact (Router.effect_perform _).sound ih

theorem linked (now : page.Linked) : later.Linked := by
  induction becomes with
  | same => exact now
  | equipped _ ih => exact ih.of_unchanged rfl rfl
  | handled _ command ih => exact ih.handle command
  | performed _ _ _ ih => exact (Router.effect_perform _).linked ih

end Becomes

/-- Let a page begin with nothing on it or drawn from a catalog, and let anything become of it,
now and then further. Its links stay up, and what is highlighted now is a link: it can be
highlighted again at any later time, and the highlights of now are what taking all highlights
off and putting those back leaves. What is visible has an element, visible sections and
highlights are listed by code point and once, and the link found for a section is the least
of those whose last target it is, if there is any. -/
theorem tables_kept_throughout {drawn pointed more : List (String × String)} {first now later : Page}
    (fresh : Fresh drawn first) (became : Becomes first pointed now) (becomes : Becomes now more later) :
    (∀ link ∈ now.links, link ∈ later.links) ∧
    (∀ link ∈ now.highlights, link ∈ now.links ∧ (later.handle (.highlight link)).2 = .truth true) ∧
    (later.highlightOnly now.highlights).highlights = now.highlights ∧
    (∀ id ∈ now.active, now.hasSection id = true) ∧
    now.active.Pairwise (· < ·) ∧ now.highlights.Pairwise (· < ·) ∧
    ∀ id, let leads link := targetOf? (drawn ++ pointed) link = some id
      (∀ link, now.linkFor? id = some link ↔ leads link ∧ ∀ other, leads other → link ≤ other) ∧
      (now.linkFor? id = none ↔ ∀ link, ¬ leads link) := by
  have linked : now.Linked := became.linked fresh.linked
  have sound : now.Sound := became.sound fresh.sound
  have kept : ∀ link ∈ now.links, link ∈ later.links := fun _ => becomes.mem_links
  -- The page keeps one target for a link: the last it was given, when it was drawn or since.
  have target (link : String) : targetOf? (drawn ++ pointed) link = now.links[link]? := by
    rw [targetOf?_append, ← fresh.getElem?_links, became.getElem?_links]
  refine ⟨kept, fun link listed => ?_, ?_, fun id listed => ?_, increasing_toList _, increasing_toList _, fun id => ?_⟩
  · have there := linked link (now.mem_highlights.mp listed)
    have found : later.links.contains link = true := ExtTreeMap.contains_iff_mem.mpr (kept link there)
    exact ⟨there, by simp [handle, highlight, found]⟩
  · rw [later.highlightOnly_highlights linked kept]
    rfl
  · exact now.hasSection_iff.mpr (sound id (now.mem_active.mp listed))
  · simp only [target]
    exact ⟨fun link => now.linkFor?_eq_some_iff, now.linkFor?_eq_none_iff⟩

/-- The link to the home is pointed elsewhere, and comes first of the links that lead there. -/
theorem tables_kept_throughout_retargeting :
    let first := ofCatalog .sample
    let pointed := (first.withHaptics.handle (.addLink "nav-overview" "skills")).1
    let now := ((Router.atHome .sample pointed).perform (.navigate "skills" (some .dropdown))).1.page
    let later := ((now.handle (.addLink "nav-overview" "changelog")).1.handle .clearHighlights).1
    let drawn := Catalog.sample.sections.map fun id => (linkName id, id)
    let leads link id := targetOf? (drawn ++ [("nav-overview", "skills")]) link = some id
    now.highlights = ["nav-overview"] ∧ later.highlights = [] ∧
      (later.handle (.highlight "nav-overview")).2 = .truth true ∧
      (later.highlightOnly now.highlights).highlights = now.highlights ∧
      now.linkFor? "skills" = some "nav-overview" ∧ (∀ other, leads other "skills" → "nav-overview" ≤ other) ∧
      now.linkFor? "overview" = none ∧ ∀ link, ¬ leads link "overview" := by
  intro first pointed now later drawn leads
  have became : Becomes first [("nav-overview", "skills")] now :=
    .performed (.atHome .sample pointed) (.handled (.equipped .same) (.addLink "nav-overview" "skills"))
      (.navigate "skills" (some .dropdown))
  have becomes : Becomes now [("nav-overview", "changelog")] later :=
    .handled (.handled .same (.addLink "nav-overview" "changelog")) .clearHighlights
  obtain ⟨_, highlighted, restored, _, _, _, found⟩ := tables_kept_throughout (.drawn .sample) became becomes
  have highlights : now.highlights = ["nav-overview"] := by decide +kernel
  obtain ⟨_, again⟩ := highlighted "nav-overview" (by simp [highlights])
  have home : now.linkFor? "overview" = none := by decide +kernel
  have target : now.linkFor? "skills" = some "nav-overview" := by decide +kernel
  obtain ⟨_, least⟩ := ((found "skills").1 _).mp target
  exact ⟨highlights, by decide +kernel, again, restored, target, least, home, (found "overview").2.mp home⟩

end Page

end Vitae
