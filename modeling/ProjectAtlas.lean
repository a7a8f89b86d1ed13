import ProjectAtlas.Gateway.Basic
import ProjectAtlas.Json.Printer
import ProjectAtlas.Main
import ProjectAtlas.Proofs.Command.Reporting
import ProjectAtlas.Proofs.Config.Outcome
import ProjectAtlas.Proofs.Config.Settings
import ProjectAtlas.Proofs.Files.Change
import ProjectAtlas.Proofs.Files.Entry
import ProjectAtlas.Proofs.Files.Listing
import ProjectAtlas.Proofs.Files.PathText
import ProjectAtlas.Proofs.Files.Place
import ProjectAtlas.Proofs.Gateway.Gating
import ProjectAtlas.Proofs.Index.Ancestry
import ProjectAtlas.Proofs.Index.LastWrite
import ProjectAtlas.Proofs.Index.Search
import ProjectAtlas.Proofs.Index.Statistics
import ProjectAtlas.Proofs.Index.Usage
import ProjectAtlas.Proofs.Indexer.BestEffort
import ProjectAtlas.Proofs.Indexer.CrossReference
import ProjectAtlas.Proofs.Indexer.Isolation
import ProjectAtlas.Proofs.Indexer.Listing
import ProjectAtlas.Proofs.Indexer.Session
import ProjectAtlas.Proofs.Manifest.Layout
import ProjectAtlas.Proofs.Plugin.Directory
import ProjectAtlas.Proofs.Plugin.Map
import ProjectAtlas.Proofs.Scanner.Discovery
import ProjectAtlas.Proofs.Service.Agreement
import ProjectAtlas.Proofs.Service.Timeline
import ProjectAtlas.Proofs.Source.Comment
import ProjectAtlas.Proofs.Source.Containment
import ProjectAtlas.Proofs.Source.HeaderSpelling
import ProjectAtlas.Proofs.Source.Indentation
import ProjectAtlas.Proofs.Source.Layout
import ProjectAtlas.Proofs.Source.OpenList
import ProjectAtlas.Proofs.Source.Ownership
import ProjectAtlas.Proofs.Source.ParameterList
import ProjectAtlas.Proofs.Source.RoundTrip
import ProjectAtlas.Proofs.Source.Transparency
import ProjectAtlas.Proofs.Source.Widening
import ProjectAtlas.Proofs.Source.Wrapping
import ProjectAtlas.Proofs.Walk.Frame
import ProjectAtlas.Proofs.Walk.IgnoreList
import ProjectAtlas.Proofs.Walk.Places
import ProjectAtlas.Proofs.Walk.Visits
