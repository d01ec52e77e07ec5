import Plotter.Main
import Plotter.Service.Floor
import Plotter.Proofs.Delivery
import Plotter.Proofs.History
import Plotter.Proofs.Reach
import Plotter.Proofs.Picture
import Plotter.Proofs.Rounds
import Plotter.Proofs.Faults
import Plotter.Proofs.Shortfall
import Plotter.Proofs.Isolation
import Plotter.Proofs.Replies
import Plotter.Proofs.Reading
import Plotter.Proofs.CommandLine
import Plotter.Proofs.Launch
import Plotter.Proofs.Slots
import Plotter.Proofs.Course
import Plotter.Proofs.Payload
import Plotter.Proofs.Argument
import Plotter.Proofs.LineFeed
import Plotter.Proofs.Steering
import Plotter.Proofs.Merging
import Plotter.Proofs.IllFormed
import Plotter.Proofs.Oversized
import Plotter.Proofs.Square
import Plotter.Proofs.Turning
import Plotter.Proofs.Trail
import Plotter.Proofs.Coordinates
import Plotter.Proofs.Completeness
import Plotter.Proofs.Presentation
import Plotter.Proofs.Opening
import Plotter.Proofs.Profile
import Plotter.Proofs.Adjacency
import Plotter.Proofs.Edits
