import Vitae.Main
import Vitae.Proofs.Mail.Sending
import Vitae.Proofs.Section.Clock
import Vitae.Proofs.Section.Gesture
import Vitae.Proofs.Section.Refusal
import Vitae.Proofs.Section.Repetition
import Vitae.Proofs.Section.Succession
import Vitae.Proofs.Section.Tables
import Vitae.Proofs.Section.Vanishing
import Vitae.Proofs.Section.Walk
import Vitae.Proofs.Settings.Checks
import Vitae.Proofs.Settings.Lists
import Vitae.Proofs.Site.Appearance
import Vitae.Proofs.Site.Placement
import Vitae.Proofs.Site.Respacing
import Vitae.Proofs.Site.Selection
import Vitae.Proofs.Site.Startup
import Vitae.Proofs.Site.Verdict
import Vitae.Proofs.Skill.Declaration
import Vitae.Proofs.Stylesheet.Content
import Vitae.Proofs.Text.Layout
import Vitae.Section.Session
import Vitae.Site.Routes
