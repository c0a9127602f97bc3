import DeviceBrowser.Browser
import DeviceBrowser.Checksum
import DeviceBrowser.ClassIcons
import DeviceBrowser.Color
import DeviceBrowser.Coloring
import DeviceBrowser.Device
import DeviceBrowser.Duration
import DeviceBrowser.Emblem
import DeviceBrowser.Export
import DeviceBrowser.Fault
import DeviceBrowser.FileTime
import DeviceBrowser.Guid
import DeviceBrowser.Highlights
import DeviceBrowser.IconFile
import DeviceBrowser.IconFile.Reader
import DeviceBrowser.Inventory
import DeviceBrowser.Inventory.Dump
import DeviceBrowser.Inventory.Source
import DeviceBrowser.Menu
import DeviceBrowser.Menu.Action
import DeviceBrowser.Order
import DeviceBrowser.Pixel
import DeviceBrowser.Preferences
import DeviceBrowser.Proofs.Browser.Block
import DeviceBrowser.Proofs.Browser.Coherence
import DeviceBrowser.Proofs.Browser.DisplayOrder
import DeviceBrowser.Proofs.Browser.Frame
import DeviceBrowser.Proofs.Browser.Layout
import DeviceBrowser.Proofs.Browser.Outline
import DeviceBrowser.Proofs.Browser.Republish
import DeviceBrowser.Proofs.Browser.Rows
import DeviceBrowser.Proofs.Browser.Selection
import DeviceBrowser.Proofs.ClassIcons
import DeviceBrowser.Proofs.Device
import DeviceBrowser.Proofs.Export
import DeviceBrowser.Proofs.FileTime
import DeviceBrowser.Proofs.Highlights
import DeviceBrowser.Proofs.Highlights.Expiry
import DeviceBrowser.Proofs.IconFile
import DeviceBrowser.Proofs.IconFile.Buffers
import DeviceBrowser.Proofs.IconFile.Frame
import DeviceBrowser.Proofs.Inventory.Additions
import DeviceBrowser.Proofs.Inventory.Dump
import DeviceBrowser.Proofs.Inventory.Filling
import DeviceBrowser.Proofs.Inventory.Growth
import DeviceBrowser.Proofs.Inventory.Reading
import DeviceBrowser.Proofs.Inventory.Source
import DeviceBrowser.Proofs.Inventory.Tagged
import DeviceBrowser.Proofs.Menu.Commands
import DeviceBrowser.Proofs.Menu.Copying
import DeviceBrowser.Proofs.Order
import DeviceBrowser.Proofs.Publication.Arrival
import DeviceBrowser.Proofs.Publication.Run
import DeviceBrowser.Proofs.Publication.Selection
import DeviceBrowser.Proofs.Refresh
import DeviceBrowser.Proofs.Refresh.Accounts
import DeviceBrowser.Proofs.Screen.Collapse
import DeviceBrowser.Proofs.Screen.Frames
import DeviceBrowser.Proofs.Screen.RightClick
import DeviceBrowser.Proofs.Screen.Rows
import DeviceBrowser.Proofs.Screen.Run
import DeviceBrowser.Proofs.Session.Answers
import DeviceBrowser.Proofs.Session.Convergence
import DeviceBrowser.Proofs.Session.Display
import DeviceBrowser.Proofs.Session.Redraws
import DeviceBrowser.Proofs.Session.Run
import DeviceBrowser.Proofs.Session.Steps
import DeviceBrowser.Proofs.Session.Stored
import DeviceBrowser.Proofs.Session.Traffic
import DeviceBrowser.Proofs.Settings.Document
import DeviceBrowser.Proofs.Settings.Preferences
import DeviceBrowser.Proofs.Settings.Saving
import DeviceBrowser.Proofs.Snapshot.Allocation
import DeviceBrowser.Proofs.Snapshot.Branches
import DeviceBrowser.Proofs.Snapshot.Correspondence
import DeviceBrowser.Proofs.Snapshot.Extension
import DeviceBrowser.Proofs.Snapshot.Kept
import DeviceBrowser.Proofs.Snapshot.Lookup
import DeviceBrowser.Proofs.Snapshot.Numbering
import DeviceBrowser.Proofs.Snapshot.PreOrder
import DeviceBrowser.Proofs.Snapshot.Recasing
import DeviceBrowser.Proofs.Snapshot.Renumbering
import DeviceBrowser.Proofs.Snapshot.Siblings
import DeviceBrowser.Proofs.Snapshot.Walk
import DeviceBrowser.Proofs.Snapshot.WellFormed
import DeviceBrowser.Proofs.Table
import DeviceBrowser.Proofs.Text.Case
import DeviceBrowser.Proofs.Text.Csv
import DeviceBrowser.Proofs.Text.Fields
import DeviceBrowser.Proofs.Text.Grouping
import DeviceBrowser.Proofs.Text.Json
import DeviceBrowser.Proofs.Text.Lines
import DeviceBrowser.Proofs.Text.Lowering
import DeviceBrowser.Proofs.Text.Numeral
import DeviceBrowser.Proofs.View.Columns
import DeviceBrowser.Proofs.View.Excerpts
import DeviceBrowser.Proofs.View.Listing
import DeviceBrowser.Proofs.View.Loaded
import DeviceBrowser.Proofs.View.Paths
import DeviceBrowser.Proofs.View.Reversal
import DeviceBrowser.Proofs.View.Search
import DeviceBrowser.Proofs.View.Sorting
import DeviceBrowser.Proofs.View.Stored
import DeviceBrowser.Property.Class
import DeviceBrowser.Property.Value
import DeviceBrowser.Publication
import DeviceBrowser.Refresh
import DeviceBrowser.Screen
import DeviceBrowser.Screen.Painted
import DeviceBrowser.Screen.Row
import DeviceBrowser.Session
import DeviceBrowser.Settings
import DeviceBrowser.Settings.Location
import DeviceBrowser.Settings.Store
import DeviceBrowser.Snapshot
import DeviceBrowser.Table
import DeviceBrowser.Text.Blank
import DeviceBrowser.Text.Caret
import DeviceBrowser.Text.Case
import DeviceBrowser.Text.CaseTable
import DeviceBrowser.Text.Csv
import DeviceBrowser.Text.Fields
import DeviceBrowser.Text.Glyph
import DeviceBrowser.Text.Json
import DeviceBrowser.Text.Json.Printer
import DeviceBrowser.Text.Json.Reader
import DeviceBrowser.Text.Numeral
import DeviceBrowser.Theme
import DeviceBrowser.View.Columns
import DeviceBrowser.View.Listing
import DeviceBrowser.View.Search
import DeviceBrowser.View.Sorting
import DeviceBrowser.Window
import DeviceBrowser.Window.Aim
import DeviceBrowser.Window.Basic
import DeviceBrowser.Window.Box
import DeviceBrowser.Window.Layout
import DeviceBrowser.Window.Measure
import DeviceBrowser.Window.Popup
import DeviceBrowser.Window.Sheet
import DeviceBrowser.Window.Toolbar
