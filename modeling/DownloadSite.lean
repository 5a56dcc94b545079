import DownloadSite.Files.Tree
import DownloadSite.Main
import DownloadSite.Proofs.CommandLine.Occurrence
import DownloadSite.Proofs.CommandLine.Reading
import DownloadSite.Proofs.CommandLine.Completeness
import DownloadSite.Proofs.CommandLine.Soundness
import DownloadSite.Proofs.Toml.DocumentText
import DownloadSite.Proofs.Settings.Entries
import DownloadSite.Proofs.Settings.RoundTrip
import DownloadSite.Proofs.Toml.Continuation
import DownloadSite.Proofs.Toml.CurrentTable
import DownloadSite.Proofs.Toml.OneMoreLine
import DownloadSite.Proofs.Settings.Extension
import DownloadSite.Proofs.Html.Outline
import DownloadSite.Proofs.Html.Tags
import DownloadSite.Proofs.Page.Document
import DownloadSite.Proofs.Page.TagSequence
import DownloadSite.Proofs.Files.View
import DownloadSite.Proofs.Page.Recovery
import DownloadSite.Proofs.Files.Written
import DownloadSite.Proofs.Files.Effect
import DownloadSite.Proofs.CommandLine.Printing
import DownloadSite.Proofs.CommandLine.FirstProblem
import DownloadSite.Proofs.Program.Agreement
import DownloadSite.Proofs.Program.Publication
import DownloadSite.Proofs.Files.Names
import DownloadSite.Proofs.Files.Growth
import DownloadSite.Proofs.Site.Course
import DownloadSite.Proofs.Site.Footprint
import DownloadSite.Proofs.Files.PlainPath
import DownloadSite.Proofs.Files.OpenWay
import DownloadSite.Proofs.Site.Obstacles
import DownloadSite.Proofs.Text.Digits
import DownloadSite.Proofs.Toml.ValueText
import DownloadSite.Proofs.Toml.SectionText
import DownloadSite.Proofs.Toml.Sheet
import DownloadSite.Proofs.Settings.Outcome
import DownloadSite.Proofs.Files.Overwriting
import DownloadSite.Proofs.Links.Joining
import DownloadSite.Proofs.Site.Overwriting
import DownloadSite.Proofs.Html.Reading
import DownloadSite.Proofs.Page.Head
import DownloadSite.Proofs.Settings.Precedence
import DownloadSite.Proofs.Text.Quoted
import DownloadSite.Proofs.Program.Announcement
import DownloadSite.Proofs.Release.Archive
import DownloadSite.Proofs.Log.Filter
import DownloadSite.Proofs.Log.Request
import DownloadSite.Proofs.Program.Logging
